/-
CountingHouse.Table — all accounts of the bank.

Accounts stand in the order they were opened, which is also the order
the ledger lists them in. They are never removed and never move, so the
position of an account stands for it as long as the table lives. Beside
the accounts the table keeps an index of their positions by id.

A client that asks for a new account gets the lowest free number above
the number of accounts.

There is memory for every account here. That room for one more may not be
had, which makes adding it fail and changes nothing, is left out.
-/
import CountingHouse.Account

namespace CountingHouse

/-- The accounts of a bank, by position and by id. -/
structure Table where
  /-- The accounts in the order they were opened. -/
  accounts : Array Account
  /-- The position of each id. -/
  index : List (BankId × Nat)
  deriving DecidableEq, Repr

namespace Table

/-- The table without accounts. -/
def empty : Table :=
  ⟨#[], []⟩

instance : Inhabited Table := ⟨empty⟩

/-- The number of accounts. -/
def size (t : Table) : Nat :=
  t.accounts.size

/-- The accounts in the order they were opened. -/
def toList (t : Table) : List Account :=
  t.accounts.toList

/-! ## Looking up -/

/-- The position of the account with an id. -/
def find? (t : Table) (id : BankId) : Option Nat :=
  t.index.lookup id

/-- The account at a position. -/
def get? (t : Table) (position : Nat) : Option Account :=
  t.accounts[position]?

/-- The account with an id. -/
def getById? (t : Table) (id : BankId) : Option Account :=
  (t.find? id).bind t.get?

/-! ## Adding accounts -/

/-- Puts an account at the end. The caller makes sure that its id is
new. -/
def add (t : Table) (a : Account) : Table :=
  ⟨t.accounts.push a, (a.bankId, t.size) :: t.index⟩

/-- Adds an account read from the ledger and gives its position. An
account whose id is taken is not added: the first one with an id wins. -/
def insertLoaded (t : Table) (a : Account) : Option Nat × Table :=
  match t.find? a.bankId with
  | some _ => (none, t)
  | none => (some t.size, t.add a)

/-- The first free name among those numbered `n`, `n + 1`, …; at most
`attempts` of them are tried. -/
def freeIdFrom (t : Table) : (attempts n : Nat) → Except AccountError BankId
  | 0, _ => .error .capacityExhausted
  | attempts + 1, n =>
    match BankId.numbered n with
    | .error e => .error e
    | .ok id => if (t.find? id).isSome then freeIdFrom t attempts (n + 1) else .ok id

/-- The name of the next account. Among one name more than the index
holds there is one that the index does not hold, so the attempts never
run out. -/
def freeId (t : Table) : Except AccountError BankId :=
  t.freeIdFrom (t.index.length + 1) (t.size + 1)

/-- The position of the account a client's token refers to; the token
that asks for a new account opens one. -/
def getOrCreate (t : Table) (token : String) : Except AccountError Nat × Table :=
  if token = BankId.newAccountToken then
    match t.freeId with
    | .error e => (.error e, t)
    | .ok id => (.ok t.size, t.add (Account.opened id))
  else
    match BankId.ofString token with
    | .error e => (.error e, t)
    | .ok id =>
      match t.find? id with
      | some position => (.ok position, t)
      | none => (.error (.unknownAccount id), t)

/-! ## Transactions -/

/-- Carries out a transaction on the account at a position. A position
the table never gave out is answered with a failure. -/
def apply (t : Table) (position : Nat) (transaction : Transaction) : Response × Table :=
  match t.get? position with
  | none => (.failure, t)
  | some account =>
    let (response, after) := account.apply transaction
    (response, { t with accounts := t.accounts.setIfInBounds position after })

/-- Finds or opens the account a token refers to and carries out a
transaction on it. -/
def submit (t : Table) (token : String) (transaction : Transaction) :
    Except AccountError (Nat × Response) × Table :=
  match t.getOrCreate token with
  | (.error e, t) => (.error e, t)
  | (.ok position, t) =>
    let (response, t) := t.apply position transaction
    (.ok (position, response), t)

end Table

end CountingHouse
