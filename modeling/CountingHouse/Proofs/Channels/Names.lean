/-
CountingHouse.Proofs.Channels.Names — every pipe of a program has a place of
its own.

A pipe is named after the process of the program. The two pipes of a teller
also have the number of the teller in their names, and what a pipe is for
can be told from the last letter. So no two pipes of a program have the same
name (`nodup_names`). There is no slash in any of the names and none of them
stands for a directory. In whatever way the directory is written, a path
with such a name leads to a place of this very name
(`getLast?_of_openWritable_join`).
-/
import CountingHouse.Channels
import CountingHouse.Proofs.Text.Numeral
import CountingHouse.Proofs.Volume
import Mathlib.Data.List.Nodup

namespace CountingHouse

/-! ## Parts of a path -/

namespace Path

theorem partsOf_ne_nil (s : List Char) : partsOf s ≠ [] := by
  fun_cases partsOf s <;> simp

theorem partsOf_cons {c : Char} (h : c ≠ '/') {s part : List Char} {rest : List (List Char)}
    (hs : partsOf s = part :: rest) : partsOf (c :: s) = (c :: part) :: rest := by
  rw [partsOf, hs]
  exact h

theorem partsOf_of_not_mem {s : List Char} (h : '/' ∉ s) : partsOf s = [s] := by
  induction s with
  | nil => rfl
  | cons c s ih =>
    rw [List.mem_cons, not_or] at h
    exact partsOf_cons (Ne.symm h.1) (ih h.2)

/-- A slash ends the parts before it and begins those after it. -/
theorem partsOf_append_slash (s t : List Char) :
    partsOf (s ++ '/' :: t) = partsOf s ++ partsOf t := by
  induction s with
  | nil => rfl
  | cons c s ih =>
    by_cases hc : c = '/'
    · subst hc
      exact congrArg ([] :: ·) ih
    · obtain ⟨part, rest, hs⟩ := List.exists_cons_of_ne_nil (partsOf_ne_nil s)
      rw [hs, List.cons_append] at ih
      rw [List.cons_append, partsOf_cons hc ih, partsOf_cons hc hs, List.cons_append]

/-- A name that a file or pipe can have in a directory. -/
structure Plain (name : String) : Prop where
  slash : '/' ∉ name.toList
  void : isVoid name.toList = false
  up : name.toList ≠ ['.', '.']

theorem Plain.of_head {name : String} {c : Char} {s : List Char} (hname : name.toList = c :: s)
    (hc : c ≠ '.') (hslash : '/' ∉ name.toList) : Plain name where
  slash := hslash
  void := by simp [hname, isVoid, hc]
  up := by simp [hname, hc]

/-- A name that is joined to a directory is the last part of the path. -/
theorem Plain.partsOf_join {name : String} (h : Plain name) (directory : String) :
    ∃ front, partsOf (join directory name).toList = front ++ [name.toList] := by
  have hlast := partsOf_of_not_mem h.slash
  have hrelative : isAbsolute name = false := by
    rw [isAbsolute, decide_eq_false_iff_not]
    exact fun hhead => h.slash (List.mem_of_head? hhead)
  rw [join, hrelative, if_neg Bool.false_ne_true]
  by_cases hempty : directory.isEmpty = true
  · have hnothing : directory = "" := String.isEmpty_iff.mp hempty
    rw [hnothing]
    exact ⟨[], by simpa using hlast⟩
  by_cases hend : directory.toList.getLast? = some '/'
  · obtain ⟨front, hfront⟩ := List.getLast?_eq_some_iff.mp hend
    refine ⟨partsOf front, ?_⟩
    rw [if_pos (by simp [hend]), String.toList_append, hfront, List.append_assoc,
      List.singleton_append, partsOf_append_slash, hlast]
  · refine ⟨partsOf directory.toList, ?_⟩
    rw [if_neg (by simp [hempty, hend]), String.toList_append, String.toList_append,
      List.append_assoc]
    exact (partsOf_append_slash _ _).trans (congrArg _ hlast)

end Path

/-- A path to a name in a directory leads to a place of this name. -/
theorem Volume.getLast?_of_openWritable_join {v : Volume} {directory name : String}
    (hname : Path.Plain name) {place : Place}
    (h : v.openWritable (Path.join directory name) = .ok place) :
    place.getLast? = some name.toList := by
  obtain ⟨front, hparts⟩ := hname.partsOf_join directory
  exact getLast?_of_locate hparts hname.void hname.up (openWritable_eq_ok_iff.mp h).2.1

/-! ## The names of the pipes -/

namespace Channels

theorem toList_toString_nat (n : Nat) : (toString n).toList = Text.natural n :=
  String.toList_ofList

theorem toList_toString_int (n : Int) : (toString n).toList = Text.integer n := by
  cases n with
  | ofNat n => exact toList_toString_nat n
  | negSucc n =>
    have hsign : toString (Int.negSucc n) = "-" ++ toString (n + 1) := rfl
    rw [hsign, String.toList_append, toList_toString_nat]
    rfl

theorem toList_clientName (pid : Int32) :
    (clientName pid).toList =
      "client_".toList ++ Text.integer pid.toInt ++ ".fifo".toList := by
  rw [clientName, String.toList_append, String.toList_append, toList_toString_int]

theorem toList_tellerName (ending : String) (pid : Int32) (teller : UInt32) :
    (tellerName ending pid teller).toList =
      "teller_".toList ++ Text.integer pid.toInt ++ ['_'] ++ Text.natural teller.toNat ++
        ending.toList := by
  simp only [tellerName, String.toList_append, toList_toString_int, toList_toString_nat]
  rfl

theorem slash_not_mem_integer (n : Int) : '/' ∉ Text.integer n := by
  intro h
  rcases Text.mem_integer h with h | h
  · exact absurd h (by decide)
  · exact absurd h (by decide)

theorem slash_not_mem_natural (n : Nat) : '/' ∉ Text.natural n := fun h =>
  absurd (Text.isDigit_of_mem_natural h) (by decide)

theorem plain_clientName (pid : Int32) : Path.Plain (clientName pid) := by
  refine .of_head (c := 'c') (by rw [toList_clientName]; rfl) (by decide) ?_
  rw [toList_clientName]
  simp [slash_not_mem_integer]

theorem plain_tellerName {ending : String} (h : '/' ∉ ending.toList) (pid : Int32)
    (teller : UInt32) : Path.Plain (tellerName ending pid teller) := by
  refine .of_head (c := 't') (by rw [toList_tellerName]; rfl) (by decide) ?_
  rw [toList_tellerName]
  simp [slash_not_mem_integer, slash_not_mem_natural, h]

/-- The number of a teller can be told from the names of its pipes. -/
theorem tellerName_injective (ending : String) (pid : Int32) :
    Function.Injective (tellerName ending pid) := by
  intro teller teller' h
  have hchars := congrArg String.toList h
  rw [toList_tellerName, toList_tellerName] at hchars
  have hnumber := List.append_cancel_left (List.append_cancel_right hchars)
  have hread := congrArg Text.digits? hnumber
  rw [Text.digits?_natural, Text.digits?_natural, Option.some.injEq] at hread
  exact UInt32.toNat_inj.mp hread

/-! ### The last letter -/

theorem getLast?_clientName (pid : Int32) : (clientName pid).toList.getLast? = some 'o' := by
  rw [toList_clientName, List.getLast?_append_of_ne_nil _ (by decide)]
  rfl

theorem getLast?_requestName (pid : Int32) (teller : UInt32) :
    (requestName pid teller).toList.getLast? = some 'q' := by
  rw [requestName, toList_tellerName, List.getLast?_append_of_ne_nil _ (by decide)]
  rfl

theorem getLast?_responseName (pid : Int32) (teller : UInt32) :
    (responseName pid teller).toList.getLast? = some 's' := by
  rw [responseName, toList_tellerName, List.getLast?_append_of_ne_nil _ (by decide)]
  rfl

theorem requestName_ne_responseName (pid : Int32) (teller teller' : UInt32) :
    requestName pid teller ≠ responseName pid teller' := by
  apply ne_of_apply_ne (·.toList.getLast?)
  rw [getLast?_requestName, getLast?_responseName]
  decide

theorem clientName_ne_requestName (pid : Int32) (teller : UInt32) :
    clientName pid ≠ requestName pid teller := by
  apply ne_of_apply_ne (·.toList.getLast?)
  rw [getLast?_clientName, getLast?_requestName]
  decide

theorem clientName_ne_responseName (pid : Int32) (teller : UInt32) :
    clientName pid ≠ responseName pid teller := by
  apply ne_of_apply_ne (·.toList.getLast?)
  rw [getLast?_clientName, getLast?_responseName]
  decide

/-! ### All of them -/

theorem mem_tellerNames_iff {pid : Int32} {name : String} {place count : Nat} :
    name ∈ tellerNames pid place count ↔ ∃ k, place ≤ k ∧ k < place + count ∧
      (name = requestName pid (.ofNat k) ∨ name = responseName pid (.ofNat k)) := by
  induction count generalizing place with
  | zero => simp only [tellerNames, List.not_mem_nil, false_iff]; rintro ⟨k, _, _, _⟩; omega
  | succ count ih =>
    simp only [tellerNames, List.mem_cons, ih]
    constructor
    · rintro (rfl | rfl | ⟨k, hle, hlt, h⟩)
      · exact ⟨place, by omega, by omega, .inl rfl⟩
      · exact ⟨place, by omega, by omega, .inr rfl⟩
      · exact ⟨k, by omega, by omega, h⟩
    · rintro ⟨k, hle, hlt, h⟩
      by_cases hk : k = place
      · subst hk
        exact h.imp_right .inl
      · exact .inr (.inr ⟨k, by omega, by omega, h⟩)

/-- As long as there are fewer tellers than numbers, their pipes have
different names. -/
theorem nodup_tellerNames (pid : Int32) {place count : Nat} (h : place + count ≤ UInt32.size) :
    (tellerNames pid place count).Nodup := by
  induction count generalizing place with
  | zero => exact List.nodup_nil
  | succ count ih =>
    have hother : ∀ k, place + 1 ≤ k → k < place + 1 + count →
        UInt32.ofNat place ≠ UInt32.ofNat k := by
      intro k hle hlt heq
      have hnumber := congrArg UInt32.toNat heq
      rw [UInt32.toNat_ofNat_of_lt' (by omega), UInt32.toNat_ofNat_of_lt' (by omega)] at hnumber
      omega
    rw [tellerNames, List.nodup_cons, List.nodup_cons, List.mem_cons, not_or]
    refine ⟨⟨requestName_ne_responseName _ _ _, ?_⟩, ?_, ih (by omega)⟩
    · rw [mem_tellerNames_iff]
      rintro ⟨k, hle, hlt, hname | hname⟩
      · exact hother k hle hlt (tellerName_injective _ _ hname)
      · exact requestName_ne_responseName _ _ _ hname
    · rw [mem_tellerNames_iff]
      rintro ⟨k, hle, hlt, hname | hname⟩
      · exact requestName_ne_responseName _ _ _ hname.symm
      · exact hother k hle hlt (tellerName_injective _ _ hname)

/-- **No two pipes of a program have the same name.** -/
theorem nodup_names (pid : Int32) {count : Nat} (h : count ≤ UInt32.size) :
    (names pid count).Nodup := by
  rw [names, List.nodup_cons, mem_tellerNames_iff]
  refine ⟨?_, nodup_tellerNames pid (by omega)⟩
  rintro ⟨k, _, _, hname | hname⟩
  · exact clientName_ne_requestName _ _ hname
  · exact clientName_ne_responseName _ _ hname

theorem plain_of_mem_names {pid : Int32} {count : Nat} {name : String}
    (h : name ∈ names pid count) : Path.Plain name := by
  rcases List.mem_cons.mp h with rfl | h
  · exact plain_clientName pid
  · obtain ⟨k, _, _, rfl | rfl⟩ := mem_tellerNames_iff.mp h
    · exact plain_tellerName (by decide) _ _
    · exact plain_tellerName (by decide) _ _

theorem requestName_mem_names (pid : Int32) {k count : Nat} (h : k < count) :
    requestName pid (.ofNat k) ∈ names pid count :=
  List.mem_cons_of_mem _ (mem_tellerNames_iff.mpr ⟨k, Nat.zero_le k, by omega, .inl rfl⟩)

theorem responseName_mem_names (pid : Int32) {k count : Nat} (h : k < count) :
    responseName pid (.ofNat k) ∈ names pid count :=
  List.mem_cons_of_mem _ (mem_tellerNames_iff.mpr ⟨k, Nat.zero_le k, by omega, .inr rfl⟩)

end Channels

end CountingHouse
