/-
**A tree after a write.**

A write replaces what stands at one location.  As long as no directory stood there, every path
still leads where it led, and only the entry at its end may be the new one.  So a file that was
opened for writing can be opened again and holds what was written, and whatever stood at some path
still has something standing there.

Main results:

* `JumpHost.FileTree.locate_put` — **paths lead where they led**;
* `JumpHost.FileTree.exists?_put` — what stood somewhere still does;
* `JumpHost.FileTree.openOrCreate_put` — **a file reads as it was written**, and can be opened
  again;
* `JumpHost.FileTree.exists?_makeDirectories` — a directory that was made is there.
-/

import JumpHost.Files.Tree

set_option autoImplicit false

namespace JumpHost.FileTree

variable {t : FileTree} {location : List String} {entry : Entry}

/-- No directory stands at a location, so no path leads through it. -/
def NoDirectory (t : FileTree) (location : List String) : Prop :=
  ∀ mode, t.get? location ≠ some (.directory mode)

theorem NoDirectory.isBase (h : t.NoDirectory location) : isBase location = false := by
  cases hb : FileTree.isBase location with
  | false => rfl
  | true => exact absurd (by simp [get?, hb]) (h 0o700)

/-- What a look-up of a location gives after a write, against what it gave before: the new entry,
or the same as before if it is another location or its name is too long for any look-up. -/
def Seen (location : List String) (entry : Entry) (other : List String)
    (before after : Except OsError Entry) : Prop :=
  other = location ∧ after = .ok entry ∨
    after = before ∧ (other = location → before = .error .nameTooLong)

/-! ### Looking up -/

theorem entryOr_put (h : t.NoDirectory location) (other : List String) :
    Seen location entry other (t.entryOr other) ((t.put location entry).entryOr other) := by
  by_cases he : other = location
  · refine Or.inl ⟨he, ?_⟩
    rw [he, entryOr, get?_put_self t entry h.isBase]
  · refine Or.inr ⟨?_, fun e => absurd e he⟩
    rw [entryOr, entryOr, get?_put_of_ne t entry he]

theorem lookUp_put (h : t.NoDirectory location) (entry : Entry) (here : List String)
    (name : String) :
    Seen location entry (here ++ [name]) (t.lookUp here name)
      ((t.put location entry).lookUp here name) := by
  unfold lookUp
  split
  · exact Or.inr ⟨rfl, fun _ => rfl⟩
  · exact entryOr_put h _

/-- A look-up that finds something finds what stands at the location. -/
theorem get?_of_lookUp {here : List String} {name : String} {found : Entry}
    (h : t.lookUp here name = .ok found) : t.get? (here ++ [name]) = some found := by
  unfold lookUp entryOr at h
  split at h
  · cases h
  · split at h
    · cases h
    · rename_i hf
      rw [hf]
      cases h
      rfl

/-! ### Walking -/

/-- **A walk leads where it led.** -/
theorem walk_put (h : t.NoDirectory location) {insists : Bool} {here steps : List String}
    {place : Place} (hw : t.walk insists here steps = .ok place) :
    ∃ after, (t.put location entry).walk insists here steps = .ok { place with entry := after } ∧
      Seen location entry place.location place.entry after := by
  -- only the last name and the directories on the way are looked up
  fun_induction FileTree.walk t insists here steps with
  | case1 here =>
    cases hw
    exact ⟨_, rfl, entryOr_put h here⟩
  | case2 here rest ih =>
    rw [walk, if_pos rfl]
    exact ih hw
  | case3 here rest hdot ih =>
    rw [walk, if_neg hdot, if_pos rfl]
    exact ih hw
  | case4 here step hdot hup =>
    cases hw
    rw [walk, if_neg hdot, if_neg hup, if_pos rfl]
    exact ⟨_, rfl, lookUp_put h entry here step⟩
  | case5 => cases hw
  | case6 => cases hw
  | case7 here step rest hdot hup hlast mode hd ih =>
    -- a directory that the walk goes through is not where the write is
    have hne : here ++ [step] ≠ location := by
      intro e
      exact h mode (e ▸ get?_of_lookUp hd)
    rw [walk, if_neg hdot, if_neg hup, if_neg hlast]
    rcases lookUp_put h entry here step with ⟨e, -⟩ | ⟨e, -⟩
    · exact absurd e hne
    · rw [e, hd]
      exact ih hw

/-- A path that leads somewhere is well formed, so it is walked in every tree. -/
theorem locate_eq_walk {path : String} {place : Place} (hl : t.locate path = .ok place)
    (u : FileTree) :
    u.locate path =
      u.walk (Path.endsInSlash path) (if Path.isAbsolute path then ["/"] else [])
        (Path.steps path) := by
  unfold locate at hl ⊢
  split at hl
  · cases hl
  · rename_i h₁
    rw [if_neg h₁]
    split at hl
    · cases hl
    · rename_i h₂
      rw [if_neg h₂]
      split at hl
      · cases hl
      · rename_i h₃
        rw [if_neg h₃]

/-- **Paths lead where they led.** -/
theorem locate_put (h : t.NoDirectory location) (entry : Entry) {path : String} {place : Place}
    (hl : t.locate path = .ok place) :
    ∃ after, (t.put location entry).locate path = .ok { place with entry := after } ∧
      Seen location entry place.location place.entry after := by
  rw [locate_eq_walk hl]
  rw [locate_eq_walk hl] at hl
  exact walk_put h hl

/-- The entry at the end of a walk is the one at its location, unless the last name is too long. -/
theorem entry_of_walk {insists : Bool} {here steps : List String} {place : Place}
    (hw : t.walk insists here steps = .ok place) :
    place.entry = .error .nameTooLong ∨ place.entry = t.entryOr place.location := by
  fun_induction FileTree.walk t insists here steps with
  | case1 here =>
    cases hw
    exact Or.inr rfl
  | case2 here rest ih => exact ih hw
  | case3 here rest hdot ih => exact ih hw
  | case4 here step hdot hup =>
    cases hw
    unfold lookUp
    split
    · exact Or.inl rfl
    · exact Or.inr rfl
  | case5 => cases hw
  | case6 => cases hw
  | case7 here step rest hdot hup hlast mode hd ih => exact ih hw

theorem entry_of_locate {path : String} {place : Place} (hl : t.locate path = .ok place) :
    place.entry = .error .nameTooLong ∨ place.entry = t.entryOr place.location := by
  rw [locate_eq_walk hl] at hl
  exact entry_of_walk hl

/-- Nothing, or a file, at the end of a path is no directory. -/
theorem noDirectory_of_locate {path : String} {place : Place} (hl : t.locate path = .ok place)
    (he : place.entry = .error .notFound ∨
      ∃ mode contents, place.entry = .ok (.file mode contents)) :
    t.NoDirectory place.location := by
  intro mode hd
  have hdir : t.entryOr place.location = .ok (.directory mode) := by rw [entryOr, hd]
  rcases entry_of_locate hl with h | h
  · rw [h] at he
    rcases he with he | ⟨m, c, he⟩ <;> cases he
  · rw [h, hdir] at he
    rcases he with he | ⟨m, c, he⟩ <;> cases he

/-! ### Opening -/

theorem openOrCreate_of_locate {path : String} {place : Place} {new : Nat}
    (hl : t.locate path = .ok place) :
    t.openOrCreate path new =
      if place.insists then .error .isADirectory
      else
        match place.entry with
        | .error .notFound => .ok (place.location, new, [])
        | .error e => .error e
        | .ok (.directory _) => .error .isADirectory
        | .ok (.file mode contents) => .ok (place.location, mode, contents) := by
  obtain ⟨loc, found, insists⟩ := place
  unfold openOrCreate
  rw [hl]
  cases insists with
  | true => rfl
  | false => rfl

/-- Opening for appending succeeds at a path that insists on no directory and leads to a file or to
nothing. -/
theorem openOrCreate_eq_ok_iff {path : String} {new mode : Nat} {contents : List UInt8} :
    t.openOrCreate path new = .ok (location, mode, contents) ↔
      ∃ place, t.locate path = .ok place ∧ place.insists = false ∧ place.location = location ∧
        (place.entry = .error .notFound ∧ new = mode ∧ [] = contents ∨
          place.entry = .ok (.file mode contents)) := by
  constructor
  · intro h
    cases hl : t.locate path with
    | error e =>
      unfold openOrCreate at h
      rw [hl] at h
      cases h
    | ok place =>
      rw [openOrCreate_of_locate hl] at h
      split at h
      · cases h
      · rename_i hi
        refine ⟨place, rfl, by simpa using hi, ?_⟩
        split at h
        · rename_i he
          cases h
          exact ⟨rfl, Or.inl ⟨he, rfl, rfl⟩⟩
        · cases h
        · cases h
        · rename_i he
          cases h
          exact ⟨rfl, Or.inr he⟩
  · rintro ⟨place, hl, hi, rfl, ⟨he, rfl, rfl⟩ | he⟩
    · rw [openOrCreate_of_locate hl, hi, he]
      rfl
    · rw [openOrCreate_of_locate hl, hi, he]
      rfl

theorem entryAt_of_locate {path : String} {place : Place} (hl : t.locate path = .ok place) :
    t.entryAt path =
      match place.entry with
      | .error e => .error e
      | .ok (.directory mode) => .ok (.directory mode)
      | .ok (.file mode contents) =>
        if place.insists then .error .notADirectory else .ok (.file mode contents) := by
  obtain ⟨loc, found, insists⟩ := place
  unfold entryAt
  rw [hl]
  rcases found with e | (mode | ⟨mode, contents⟩)
  · rfl
  · rfl
  · cases insists with
    | true => rfl
    | false => rfl

/-- What stood somewhere still does: it is the same, or what was written there. -/
theorem exists?_put (h : t.NoDirectory location) {path : String} (he : t.exists? path = true) :
    (t.put location entry).exists? path = true := by
  unfold exists? at he ⊢
  cases hl : t.locate path with
  | error e =>
    unfold entryAt at he
    rw [hl] at he
    cases he
  | ok place =>
    obtain ⟨after, ha, hseen⟩ := locate_put h entry hl
    rw [entryAt_of_locate hl] at he
    rw [entryAt_of_locate ha]
    rcases hseen with ⟨hloc, rfl⟩ | ⟨rfl, -⟩
    · -- the path led to a file and insists on no directory
      cases hp : place.entry with
      | error e =>
        rw [hp] at he
        cases he
      | ok found =>
        rcases found with mode | ⟨mode, contents⟩
        · rcases entry_of_locate hl with hf | hf
          · rw [hp] at hf
            cases hf
          · rw [hp, hloc, entryOr] at hf
            split at hf
            · cases hf
            · rename_i hg
              cases hf
              exact absurd hg (h mode)
        · rw [hp] at he
          cases hi : place.insists with
          | true =>
            simp only [hi, if_true] at he
            cases he
          | false => cases entry <;> rfl
    · exact he

/-- **A file that was opened can be opened again**, and holds what was written. -/
theorem openOrCreate_put {path : String} {new mode : Nat} {contents : List UInt8}
    (ho : t.openOrCreate path new = .ok (location, mode, contents)) (written : List UInt8) :
    t.NoDirectory location ∧
      (t.put location (.file mode written)).openOrCreate path new =
        .ok (location, mode, written) ∧
      (t.put location (.file mode written)).open? path = .ok (.ok written) := by
  obtain ⟨place, hl, hi, rfl, he⟩ := openOrCreate_eq_ok_iff.1 ho
  have hn : t.NoDirectory place.location := by
    refine noDirectory_of_locate hl ?_
    rcases he with ⟨he, -, -⟩ | he
    · exact Or.inl he
    · exact Or.inr ⟨_, _, he⟩
  obtain ⟨after, ha, ⟨-, rfl⟩ | ⟨-, hlong⟩⟩ := locate_put hn (.file mode written) hl
  · refine ⟨hn, openOrCreate_eq_ok_iff.2 ⟨_, ha, hi, rfl, Or.inr rfl⟩, ?_⟩
    rw [open?, entryAt_of_locate ha]
    simp only [hi]
    rfl
  · rw [hlong rfl] at he
    rcases he with ⟨he, -, -⟩ | he <;> cases he

/-- Opening for reading finds what opening for appending finds, or no file where that makes one. -/
theorem open?_of_openOrCreate {path : String} {new mode : Nat} {contents : List UInt8}
    (ho : t.openOrCreate path new = .ok (location, mode, contents)) :
    t.open? path = .ok (.ok contents) ∨ t.open? path = .error .notFound ∧ contents = [] := by
  obtain ⟨place, hl, hi, rfl, ⟨he, -, rfl⟩ | he⟩ := openOrCreate_eq_ok_iff.1 ho
  · refine Or.inr ⟨?_, rfl⟩
    rw [open?, entryAt_of_locate hl, he]
    rfl
  · refine Or.inl ?_
    rw [open?, entryAt_of_locate hl, he]
    simp only [hi]
    rfl

/-! ### Directories -/

theorem exists?_makeDirectory {made : FileTree} {path : String} {mode : Nat}
    (h : t.makeDirectory path mode = .ok made) : made.exists? path = true := by
  unfold makeDirectory at h
  cases hl : t.locate path with
  | error e =>
    rw [hl] at h
    cases h
  | ok place =>
    rw [hl] at h
    simp only [bind, Except.bind] at h
    split at h
    · cases h
    · rename_i he
      cases h
      obtain ⟨after, ha, ⟨-, rfl⟩ | ⟨-, hlong⟩⟩ :=
        locate_put (noDirectory_of_locate hl (Or.inl he)) (.directory mode) hl
      · rw [exists?, entryAt_of_locate ha]
        rfl
      · rw [hlong rfl] at he
        cases he
    · cases h

theorem exists?_of_isDirectory {path : String} (h : t.isDirectory path = true) :
    t.exists? path = true := by
  unfold isDirectory at h
  split at h
  · rename_i hd
    rw [exists?, hd]
    rfl
  · cases h

/-- The directory that is asked for is there once it and those that it lies in are made. -/
theorem exists?_makeDirectories {made : FileTree} {mode : Nat} {path : String}
    {outer : List String} (h : t.makeDirectories mode (path :: outer) = (none, made)) :
    made.exists? path = true := by
  unfold makeDirectories at h
  split at h
  · rename_i hm
    cases h
    exact exists?_makeDirectory hm
  · split at h
    · cases h
    · split at h
      · rename_i hm
        cases h
        exact exists?_makeDirectory hm
      · split at h
        · rename_i hd
          cases h
          exact exists?_of_isDirectory hd
        · cases h
  · split at h
    · rename_i hd
      cases h
      exact exists?_of_isDirectory hd
    · cases h

end JumpHost.FileTree
