/-
CountingHouse.Proofs.Mailbox.Payload — what a record in shared memory
says.

A transaction is read from its record as it was written
(`decode_encode`). The rule for ids makes this so: no id is longer than
the field it is written to, so the length beside the field is the length
of the id, and the zeros behind it are not read.

Any bytes may stand in shared memory. `Carries` says what a record tells
of a transaction without reading it, and `decode_cases` that reading finds
just this: the strict reader of UTF-8 accepts the bytes of a text and no
others, and the name and the operation are looked at separately.
-/
import CountingHouse.Mailbox.Payload
import CountingHouse.Proofs.BankId
import CountingHouse.Proofs.Text.Utf8

namespace CountingHouse

namespace Operation

theorem ofByte?_toByte (operation : Operation) : ofByte? operation.toByte = some operation := by
  cases operation <;> rfl

theorem ofByte?_eq_some_iff {byte : UInt8} {operation : Operation} :
    ofByte? byte = some operation ↔ operation.toByte = byte := by
  constructor
  · intro h
    simpa using List.find?_some h
  · rintro rfl
    exact ofByte?_toByte operation

theorem toByte_eq_iff {byte : UInt8} {operation : Operation} :
    operation.toByte = byte ↔
      (byte = 1 ∧ operation = .deposit) ∨ (byte = 2 ∧ operation = .withdraw) := by
  cases operation <;> simp [toByte, eq_comm]

end Operation

namespace Payload

/-- The field holds the bytes of an id, followed by zeros. -/
theorem take_ofFn_getD (bytes : List UInt8) {n : Nat} (h : bytes.length ≤ n) :
    (Vector.ofFn fun i : Fin n => bytes.getD i.val 0).toList.take bytes.length = bytes := by
  apply List.ext_getElem
  · simp [h]
  · intro i hi hi'
    simp [hi']

theorem idLength_encode (t : Transaction) :
    (encode t).idLength.toNat = (Text.encode t.bankId.text.toList).length := by
  have hlength : (Text.encode t.bankId.text.toList).length ≤ maxIdBytes := t.bankId.byteLength_le
  rw [encode, UInt8.toNat_ofNat', Nat.mod_eq_of_lt]
  exact Nat.lt_of_le_of_lt hlength (by decide)

theorem id_encode (t : Transaction) : (encode t).id = Text.encode t.bankId.text.toList := by
  have hlength : (Text.encode t.bankId.text.toList).length ≤ maxIdBytes := t.bankId.byteLength_le
  rw [id, idLength_encode, Nat.min_eq_left hlength]
  exact take_ofFn_getD _ hlength

theorem idBytes_encode (t : Transaction) :
    (encode t).idBytes.toList =
      Text.encode t.bankId.text.toList ++
        List.replicate (maxIdBytes - (Text.encode t.bankId.text.toList).length) 0 := by
  have hlength : (Text.encode t.bankId.text.toList).length ≤ maxIdBytes := t.bankId.byteLength_le
  rw [encode]
  apply List.ext_getElem
  · simp [hlength]
  · intro i hi hi'
    by_cases hshort : i < (Text.encode t.bankId.text.toList).length
    · simp [hshort]
    · simp [List.getElem_append_right (Nat.le_of_not_lt hshort), hshort]

/-- **What is written can be read**, and is what was written. -/
theorem decode_encode (t : Transaction) : (encode t).decode = .ok t := by
  have hoperation : Operation.ofByte? (encode t).operation = some t.operation :=
    Operation.ofByte?_toByte t.operation
  rw [decode, id_encode, Text.decode?_encode]
  simp only [String.ofList_toList, BankId.ofString_text, hoperation]
  rfl

/-! ## Any record -/

/-- A record carries a transaction: the bytes its length covers, at most
the whole field, are the name of the account, and its operation and its
amount are those of the transaction. What stands behind the name does not
matter. -/
structure Carries (p : Payload) (t : Transaction) : Prop where
  name : Text.encode t.bankId.text.toList =
    p.idBytes.toList.take (min p.idLength.toNat maxIdBytes)
  operation : (p.operation = 1 ∧ t.operation = .deposit) ∨
    (p.operation = 2 ∧ t.operation = .withdraw)
  amount : p.amount = t.amount

/-- The name a record carries is one that can be read. -/
theorem Carries.decode?_id {p : Payload} {t : Transaction} (h : p.Carries t) :
    Text.decode? p.id = some t.bankId.text.toList :=
  Text.decode?_eq_some_iff.mpr h.name

/-- What reading a record leads to: the transaction it carries, or, when it
carries none, a complaint. -/
theorem decode_cases (p : Payload) :
    (∃ t, p.Carries t ∧ p.decode = .ok t) ∨
    ((∀ t, ¬ p.Carries t) ∧ ∃ reason, p.decode = .error (.corruptPayload reason)) := by
  rw [decode]
  split
  · next htext =>
    refine .inr ⟨fun t ht => ?_, _, rfl⟩
    rw [ht.decode?_id] at htext
    cases htext
  · next s htext =>
    have hname := Text.decode?_eq_some_iff.mp htext
    split
    · next e hid =>
      refine .inr ⟨fun t ht => ?_, _, rfl⟩
      rw [ht.decode?_id] at htext
      cases htext
      rw [String.ofList_toList, BankId.ofString_text] at hid
      cases hid
    · next id hid =>
      have htoList : id.text.toList = s := by
        rw [BankId.text_of_ofString hid, String.toList_ofList]
      split
      · next hbyte =>
        refine .inr ⟨fun t ht => ?_, _, rfl⟩
        rw [Operation.ofByte?_eq_some_iff.mpr (Operation.toByte_eq_iff.mpr ht.operation)] at hbyte
        cases hbyte
      · next operation hbyte =>
        have hoperation := Operation.toByte_eq_iff.mp (Operation.ofByte?_eq_some_iff.mp hbyte)
        exact .inl ⟨⟨id, operation, p.amount⟩, ⟨by rw [htoList, hname]; rfl, hoperation, rfl⟩, rfl⟩

/-- A record carries no more than one transaction. -/
theorem Carries.unique {p : Payload} {t u : Transaction} (ht : p.Carries t) (hu : p.Carries u) :
    t = u := by
  have hname := ht.decode?_id.symm.trans hu.decode?_id
  have hid : t.bankId = u.bankId :=
    BankId.eq_of_text_eq (String.toList_inj.mp (Option.some.inj hname))
  have hbyte : t.operation.toByte = u.operation.toByte :=
    (Operation.toByte_eq_iff.mpr ht.operation).trans (Operation.toByte_eq_iff.mpr hu.operation).symm
  have hoperation : t.operation = u.operation :=
    Option.some.inj (by rw [← Operation.ofByte?_toByte, hbyte, Operation.ofByte?_toByte])
  have hamount := ht.amount.symm.trans hu.amount
  cases t
  cases u
  simp_all

/-- The conditions under which a record carries some transaction. -/
theorem exists_carries_iff (p : Payload) :
    (∃ t, p.Carries t) ↔
      (∃ s, s ≠ [] ∧ s.head? ≠ some '#' ∧ (∀ c ∈ s, Text.isBlank c = false) ∧
        Text.encode s = p.idBytes.toList.take (min p.idLength.toNat maxIdBytes)) ∧
      (p.operation = 1 ∨ p.operation = 2) := by
  constructor
  · rintro ⟨t, ht⟩
    obtain ⟨hne, -, hhash, hblank⟩ := BankId.usable_iff.mp t.bankId.usable
    exact ⟨⟨_, hne, hhash, hblank, ht.name⟩, ht.operation.imp And.left And.left⟩
  · rintro ⟨⟨s, hne, hhash, hblank, hname⟩, hbyte⟩
    have hlength : (Text.encode s).length ≤ maxIdBytes := by
      rw [hname, List.length_take]
      omega
    have husable : isUsableId (String.ofList s) = true :=
      BankId.usable_iff.mpr (by
        simp only [Text.byteLength, String.toList_ofList]
        exact ⟨hne, hlength, hhash, hblank⟩)
    have hname' : Text.encode (String.ofList s).toList =
        p.idBytes.toList.take (min p.idLength.toNat maxIdBytes) := by
      rw [String.toList_ofList, hname]
    rcases hbyte with hbyte | hbyte
    · exact ⟨⟨⟨_, husable⟩, .deposit, p.amount⟩, hname', .inl ⟨hbyte, rfl⟩, rfl⟩
    · exact ⟨⟨⟨_, husable⟩, .withdraw, p.amount⟩, hname', .inr ⟨hbyte, rfl⟩, rfl⟩

/-- A record is read as the one transaction it carries. -/
theorem decode_eq_ok_iff {p : Payload} {t : Transaction} : p.decode = .ok t ↔ p.Carries t := by
  rcases p.decode_cases with ⟨u, hu, hok⟩ | ⟨hnone, reason, herror⟩
  · rw [hok]
    constructor
    · intro h
      exact Except.ok.inj h ▸ hu
    · intro h
      rw [hu.unique h]
  · rw [herror]
    exact ⟨nofun, fun h => absurd h (hnone t)⟩

/-- **A record loses nothing of a transaction and passes nothing else off as
one.** What is written fits its field and is read back. Of any record, the
bytes that its length covers have to be the UTF-8 of a name and its
operation has to be one of two bytes, or it is refused. A record that is
accepted can be written anew, and then nothing stands behind the name. -/
theorem lossless_and_sound :
    (∀ t : Transaction,
      (Text.encode t.bankId.text.toList).length ≤ maxIdBytes ∧
      (encode t).idLength.toNat = (Text.encode t.bankId.text.toList).length ∧
      (encode t).idBytes.toList =
        Text.encode t.bankId.text.toList ++
          List.replicate (maxIdBytes - (Text.encode t.bankId.text.toList).length) 0 ∧
      (encode t).decode = .ok t) ∧
    ∀ p : Payload,
      ((∃ t, p.decode = .ok t) ↔
        (∃ s, s ≠ [] ∧ s.head? ≠ some '#' ∧ (∀ c ∈ s, Text.isBlank c = false) ∧
          Text.encode s = p.idBytes.toList.take (min p.idLength.toNat maxIdBytes)) ∧
        (p.operation = 1 ∨ p.operation = 2)) ∧
      ((∃ t, p.decode = .ok t) ∨ ∃ reason, p.decode = .error (.corruptPayload reason)) ∧
      ∀ t, p.decode = .ok t →
        p.Carries t ∧ (encode t).decode = .ok t ∧
        (encode t).idBytes.toList =
          p.idBytes.toList.take (min p.idLength.toNat maxIdBytes) ++
            List.replicate (maxIdBytes - min p.idLength.toNat maxIdBytes) 0 := by
  refine ⟨fun t => ⟨t.bankId.byteLength_le, idLength_encode t, idBytes_encode t,
    decode_encode t⟩, fun p => ⟨?_, ?_, fun t ht => ?_⟩⟩
  · simp only [decode_eq_ok_iff]
    exact p.exists_carries_iff
  · rcases p.decode_cases with ⟨t, _, hok⟩ | ⟨_, hcorrupt⟩
    · exact .inl ⟨t, hok⟩
    · exact .inr hcorrupt
  · have hcarries := decode_eq_ok_iff.mp ht
    have hlength : (p.idBytes.toList.take (min p.idLength.toNat maxIdBytes)).length =
        min p.idLength.toNat maxIdBytes := by
      simp
    refine ⟨hcarries, decode_encode t, ?_⟩
    rw [idBytes_encode, hcarries.name, hlength]

/-- A length beyond the field means the whole field, which may end within
a character. -/
example : (Payload.mk (.replicate 19 0x4E) 255 2 5).decode.toOption.map (·.amount) = some 5 ∧
    (Payload.mk (.replicate 19 0xC3) 255 2 5).decode.toOption = none := by decide

end Payload

end CountingHouse
