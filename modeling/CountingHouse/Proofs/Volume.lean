/-
CountingHouse.Proofs.Volume — writing a file changes where no path leads.

A path is followed through directories and through nothing else
(`follow_of_keeps`). Who writes a file or sends something on a pipe makes
no directory and takes none away, so every path still leads where it led
(`openWritable_put`). It leads to a place that has the last name of the path
(`getLast?_of_locate`).
-/
import CountingHouse.Volume

namespace CountingHouse.Volume

/-! ## Nodes -/

theorem node?_put (v : Volume) (place : Place) (node : Node) (other : Place) :
    (v.put place node).node? other =
      if other = [] then some .directory
      else if other = place then some node else v.node? other := by
  unfold node? put
  by_cases hroot : other = []
  · simp [hroot]
  by_cases hplace : other = place
  · simp [hplace]
  · have hrest : ∀ nodes : List (Place × Node),
        (nodes.filter (·.1 ≠ place)).lookup other = nodes.lookup other := by
      intro nodes
      induction nodes with
      | nil => rfl
      | cons n nodes ih =>
        by_cases hn : n.1 = place
        · have hne : (other == n.1) = false := beq_false_of_ne (by rw [hn]; exact hplace)
          rw [List.filter_cons_of_neg (by simp [hn]), ih, List.lookup_cons, hne]
        · rw [List.filter_cons_of_pos (by simp [hn]), List.lookup_cons, List.lookup_cons, ih]
    simp only [if_neg hroot, if_neg hplace, List.lookup_cons, beq_false_of_ne hplace, hrest]

theorem node?_put_self (v : Volume) {place : Place} (h : place ≠ []) (node : Node) :
    (v.put place node).node? place = some node := by
  rw [node?_put, if_neg h, if_pos rfl]

/-- What stands elsewhere stays. -/
theorem node?_put_of_ne (v : Volume) {place other : Place} (h : other ≠ place) (node : Node) :
    (v.put place node).node? other = v.node? other := by
  rw [node?_put, if_neg h]
  by_cases hroot : other = []
  · rw [if_pos hroot, node?, if_pos hroot]
  · rw [if_neg hroot]

theorem contents_put_self (v : Volume) {place : Place} (h : place ≠ []) (bytes : List UInt8) :
    (v.put place (.file bytes)).contents place = bytes := by
  rw [contents, v.node?_put_self h]

theorem ne_root_of_node? {v : Volume} {place : Place} {node : Node}
    (h : v.node? place = some node) (hnode : node ≠ .directory) : place ≠ [] := by
  rintro rfl
  exact hnode (Option.some.inj h).symm

/-! ## Following a path -/

/-- Every directory stays one, and relative paths begin where they did. -/
structure KeepsDirectories (v v' : Volume) : Prop where
  directory : ∀ place, v.node? place = some .directory → v'.node? place = some .directory
  working : v'.workingDirectory = v.workingDirectory

theorem keepsDirectories_put {v : Volume} {place : Place}
    (h : v.node? place ≠ some .directory) (node : Node) :
    v.KeepsDirectories (v.put place node) where
  directory := by
    intro other hother
    have hne : other ≠ place := by
      rintro rfl
      exact h hother
    rw [node?_put, if_neg hne, hother, ite_self]
  working := rfl

section
variable {v v' : Volume} (h : v.KeepsDirectories v')
include h

theorem follow_of_keeps {here place : Place} {names : List (List Char)}
    (hfollow : v.follow here names = .ok place) : v'.follow here names = .ok place := by
  induction names generalizing here with
  | nil => exact hfollow
  | cons name rest ih =>
    rw [follow] at hfollow ⊢
    cases hnode : v.node? here with
    | none =>
      rw [hnode] at hfollow
      cases hfollow
    | some node =>
      rw [hnode] at hfollow
      cases node with
      | directory =>
        rw [h.directory here hnode]
        simp only at hfollow ⊢
        split at hfollow
        · next hup =>
          rw [if_pos hup]
          exact ih hfollow
        · next hup =>
          split at hfollow
          · cases hfollow
          · next hlength =>
            rw [if_neg hup, if_neg hlength]
            exact ih hfollow
      | file bytes => cases hfollow
      | fifo held => cases hfollow

theorem checkEnd_of_keeps {place place' : Place} {endsVoid : Bool}
    (hend : v.checkEnd place endsVoid = .ok place') : v'.checkEnd place endsVoid = .ok place' := by
  unfold checkEnd at hend ⊢
  cases endsVoid with
  | false => exact hend
  | true =>
    rw [if_pos rfl] at hend ⊢
    cases hnode : v.node? place with
    | none =>
      rw [hnode] at hend
      cases hend
    | some node =>
      rw [hnode] at hend
      cases node with
      | directory =>
        rw [h.directory place hnode]
        exact hend
      | file bytes => cases hend
      | fifo held => cases hend

theorem locate_of_keeps {path : String} {place : Place} (hlocate : v.locate path = .ok place) :
    v'.locate path = .ok place := by
  unfold locate at hlocate ⊢
  simp only [h.working] at hlocate ⊢
  split at hlocate
  · cases hlocate
  · next hempty =>
    split at hlocate
    · cases hlocate
    · next hlength =>
      rw [if_neg hempty, if_neg hlength]
      split at hlocate
      · cases hlocate
      · next place' hfollow =>
        rw [follow_of_keeps h hfollow]
        exact checkEnd_of_keeps h hlocate

end

/-! ## Opening a file -/

/-- What it takes to open something for writing. -/
theorem openWritable_eq_ok_iff {v : Volume} {path : String} {place : Place} :
    v.openWritable path = .ok place ↔
      path.toList.contains '\x00' = false ∧ v.locate path = .ok place ∧
        ∃ node, v.node? place = some node ∧ node ≠ .directory := by
  unfold openWritable open?
  by_cases hnul : path.toList.contains '\x00' = true
  · rw [if_pos hnul, hnul]
    simp
  · rw [if_neg hnul]
    cases hlocate : v.locate path with
    | error e => simp
    | ok there =>
      cases hnode : v.node? there with
      | none => grind
      | some node => cases node <;> grind

/-- A file is found at the place where it was put. -/
theorem openWritable_put_of_locate {v : Volume} {path : String} {place : Place}
    (hnul : path.toList.contains '\x00' = false) (hlocate : v.locate path = .ok place)
    (hplace : v.node? place ≠ some .directory) {node : Node} (hnode : node ≠ .directory) :
    (v.put place node).openWritable path = .ok place := by
  have hroot : place ≠ [] := by
    rintro rfl
    exact hplace rfl
  refine openWritable_eq_ok_iff.mpr ⟨hnul, ?_, node, v.node?_put_self hroot node, hnode⟩
  exact locate_of_keeps (keepsDirectories_put hplace _) hlocate

theorem not_directory_of_openWritable {v : Volume} {path : String} {place : Place}
    (h : v.openWritable path = .ok place) : v.node? place ≠ some .directory := by
  obtain ⟨_, _, node, hnode, hdirectory⟩ := openWritable_eq_ok_iff.mp h
  rw [hnode]
  exact fun heq => hdirectory (Option.some.inj heq)

/-- A path leads to a file or pipe as before when a file or pipe has got
something, whichever it was. -/
theorem openWritable_put {v : Volume} {path : String} {place other : Place}
    (h : v.openWritable path = .ok place) (hother : v.node? other ≠ some .directory) {node : Node}
    (hnode : node ≠ .directory) : (v.put other node).openWritable path = .ok place := by
  obtain ⟨hnul, hlocate, old, hold, hdirectory⟩ := openWritable_eq_ok_iff.mp h
  by_cases hsame : place = other
  · subst hsame
    exact openWritable_put_of_locate hnul hlocate hother hnode
  · refine openWritable_eq_ok_iff.mpr ⟨hnul, ?_, old, ?_, hdirectory⟩
    · exact locate_of_keeps (keepsDirectories_put hother _) hlocate
    · rw [v.node?_put_of_ne hsame, hold]

/-- Nothing that is opened for writing is the root. -/
theorem ne_root_of_openWritable {v : Volume} {path : String} {place : Place}
    (h : v.openWritable path = .ok place) : place ≠ [] := by
  obtain ⟨_, _, node, hnode, hdirectory⟩ := openWritable_eq_ok_iff.mp h
  exact ne_root_of_node? hnode hdirectory

/-- What is opened for writing can be opened as it is. -/
theorem open?_of_openWritable {v : Volume} {path : String} {place : Place} {node : Node}
    (h : v.openWritable path = .ok place) (hnode : v.node? place = some node) :
    v.open? path = .ok (place, node) := by
  obtain ⟨hnul, hlocate, _⟩ := openWritable_eq_ok_iff.mp h
  rw [open?, if_neg (Bool.eq_false_iff.mp hnul), hlocate]
  simp only [hnode]

/-- A file that is made because there was none is found afterwards. -/
theorem openWritable_create {v v' : Volume} {path : String} {fault : Fault} {place : Place}
    (hmissing : v.openWritable path = .error fault) (hkind : fault.kind = .notFound)
    (hcreate : v.create path = .ok (place, v')) :
    v'.openWritable path = .ok place ∧ v'.contents place = [] := by
  unfold create at hcreate
  cases hlocate : v.locate path with
  | error e =>
    rw [hlocate] at hcreate
    cases hcreate
  | ok there =>
    rw [hlocate] at hcreate
    obtain ⟨rfl, rfl⟩ := Prod.mk.inj (Except.ok.inj hcreate)
    -- of what can keep a path from being opened, only a missing node fits
    have hfree : path.toList.contains '\x00' = false ∧ v.node? there = none := by
      unfold openWritable open? at hmissing
      by_cases hnul : path.toList.contains '\x00' = true
      · rw [if_pos hnul] at hmissing
        cases hmissing
        cases hkind
      · rw [if_neg hnul, hlocate] at hmissing
        cases hnode : v.node? there with
        | none => exact ⟨Bool.eq_false_iff.mpr hnul, rfl⟩
        | some node =>
          simp only [hnode] at hmissing
          cases node <;> cases hmissing
          cases hkind
    have hput : (v.put there (.file [])).openWritable path = .ok there :=
      openWritable_put_of_locate hfree.1 hlocate (by rw [hfree.2]; nofun) nofun
    exact ⟨hput, v.contents_put_self (ne_root_of_openWritable hput) []⟩

/-! ## The last name of a path -/

theorem getLast?_of_follow {v : Volume} {name : List Char} (hname : name ≠ ['.', '.'])
    {front : List (List Char)} {here place : Place}
    (h : v.follow here (front ++ [name]) = .ok place) : place.getLast? = some name := by
  induction front generalizing here with
  | nil =>
    rw [List.nil_append, follow] at h
    cases hnode : v.node? here with
    | none => simp [hnode] at h
    | some node =>
      cases node with
      | directory =>
        rw [hnode] at h
        simp only [if_neg hname] at h
        split at h
        · cases h
        · rw [← Except.ok.inj h, List.getLast?_concat]
      | file bytes => simp [hnode] at h
      | fifo held => simp [hnode] at h
  | cons part front ih =>
    rw [List.cons_append, follow] at h
    cases hnode : v.node? here with
    | none => simp [hnode] at h
    | some node =>
      cases node with
      | directory =>
        rw [hnode] at h
        simp only at h
        split at h
        · exact ih h
        · split at h
          · cases h
          · exact ih h
      | file bytes => simp [hnode] at h
      | fifo held => simp [hnode] at h

/-- The place a path leads to has the last name of the path. -/
theorem getLast?_of_locate {v : Volume} {path : String} {front : List (List Char)}
    {name : List Char} (hparts : Path.partsOf path.toList = front ++ [name])
    (hvoid : Path.isVoid name = false) (hname : name ≠ ['.', '.']) {place : Place}
    (h : v.locate path = .ok place) : place.getLast? = some name := by
  have hfilter : (front ++ [name]).filter (!Path.isVoid ·) =
      front.filter (!Path.isVoid ·) ++ [name] := by simp [hvoid]
  have hlast : Path.isVoid ((front ++ [name]).getLastD []) = false := by simpa using hvoid
  unfold locate at h
  simp only [hparts, hfilter, hlast] at h
  split at h
  · cases h
  · split at h
    · cases h
    · split at h
      · cases h
      · next place' hfollow =>
        rw [checkEnd, if_neg Bool.false_ne_true] at h
        rw [← Except.ok.inj h]
        exact getLast?_of_follow hname hfollow

/-! ## Pipes -/

/-- A pipe holds what is sent behind what it holds already. -/
theorem send_of_fifo {v : Volume} {place : Place} {held : List UInt8}
    (h : v.node? place = some (.fifo held)) (bytes : List UInt8) :
    v.send place bytes = v.put place (.fifo (held ++ bytes)) := by
  simp only [send, h]

theorem read_of_fifo {f : OpenFile} {v : Volume} {held : List UInt8}
    (h : v.node? f.place = some (.fifo held)) : f.read v = (held, f, v.put f.place .pipe) := by
  simp only [OpenFile.read, h]

theorem drain_of_fifo {v : Volume} {place : Place} {held : List UInt8}
    (h : v.node? place = some (.fifo held)) : v.drain place = v.put place .pipe := by
  rw [drain, read_of_fifo (f := ⟨place, 0⟩) h]

theorem contents_of_fifo {v : Volume} {place : Place} {held : List UInt8}
    (h : v.node? place = some (.fifo held)) : v.contents place = held := by
  rw [contents, h]

end CountingHouse.Volume
