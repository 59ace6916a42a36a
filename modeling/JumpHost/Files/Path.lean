/-
**Paths as texts.**

A path is kept as it was given, because messages show it so and because the system bounds its
length.  The *steps* are what the system walks: the parts between slashes.  The *parent* is the
text before the last of them, with the slashes and dots that then end it cut off; a dot that starts
the path is a part of its own.

Main definitions:

* `JumpHost.Path.steps`, `JumpHost.Path.spell` — the parts that the system walks, and the path that
  they spell;
* `JumpHost.Path.parent?` — the directory that holds a path;
* `JumpHost.Path.ancestors` — a path and the directories above it, from the innermost outwards;
* `JumpHost.Path.join` — a path below a directory.

Main statements:

* `JumpHost.Path.length_parent_lt` — a parent is a shorter text.
-/

set_option autoImplicit false

namespace JumpHost.Path

/-! ### Steps -/

/-- The parts between slashes, the empty ones left out. -/
def steps (path : String) : List String :=
  ((path.toList.splitOn '/').filter (· ≠ [])).map String.ofList

/-- A path that starts at the root. -/
def isAbsolute (path : String) : Bool := path.toList.head? == some '/'

/-- A path that names a directory by ending in a slash. -/
def endsInSlash (path : String) : Bool := path.toList.getLast? == some '/'

/-- The path that steps spell, after the root of an absolute one. -/
def spell : List String → String
  | "/" :: rest => "/" ++ "/".intercalate rest
  | parts => "/".intercalate parts

/-! ### Parents -/

/-- The start that no parent loses, the root or a first dot, and what follows it. -/
def cutStart : List Char → List Char × List Char
  | '/' :: rest => (['/'], rest)
  | ['.'] => (['.'], [])
  | '.' :: '/' :: rest => (['.'], '/' :: rest)
  | path => ([], path)

/-- A text, read from its end, without the slashes and the dots that are parts of their own. -/
def trimEnd : List Char → List Char
  | '/' :: rest => trimEnd rest
  | '.' :: '/' :: rest => trimEnd rest
  | ['.'] => []
  | text => text

/-- What is left of a path when its last part is cut off; the root and the empty path have none. -/
def beforeLast (path : List Char) : Option (List Char) :=
  match cutStart path with
  | (start, body) =>
    match trimEnd body.reverse with
    | [] => if start = ['.'] then some [] else none
    | last => some (start ++ (trimEnd (last.dropWhile (· ≠ '/'))).reverse)

/-- The directory that holds a path; the empty text stands for the working directory. -/
def parent? (path : String) : Option String := (beforeLast path.toList).map String.ofList

theorem cutStart_append (path : List Char) : (cutStart path).1 ++ (cutStart path).2 = path := by
  unfold cutStart
  split <;> rfl

theorem length_trimEnd_le (text : List Char) : (trimEnd text).length ≤ text.length := by
  fun_induction trimEnd text with
  | case1 _ ih => exact Nat.le_trans ih (by simp)
  | case2 _ ih => exact Nat.le_trans ih (by simp only [List.length_cons]; omega)
  | case3 => simp
  | case4 => exact Nat.le_refl _

theorem head?_trimEnd_ne (text : List Char) : (trimEnd text).head? ≠ some '/' := by
  fun_induction trimEnd text with
  | case1 _ ih => exact ih
  | case2 _ ih => exact ih
  | case3 => simp
  | case4 text h _ _ =>
    intro e
    cases text with
    | nil => simp at e
    | cons c rest =>
      simp only [List.head?_cons, Option.some.injEq] at e
      exact h rest (by rw [e])

theorem length_beforeLast_lt {path rest : List Char} (h : beforeLast path = some rest) :
    rest.length < path.length := by
  have whole := congrArg List.length (cutStart_append path)
  rw [List.length_append] at whole
  unfold beforeLast at h
  split at h
  rename_i start body hs
  rw [hs] at whole
  change start.length + body.length = path.length at whole
  have trimmed := length_trimEnd_le body.reverse
  have slash := head?_trimEnd_ne body.reverse
  rw [List.length_reverse] at trimmed
  split at h
  · split at h
    · rename_i hd
      simp only [Option.some.injEq] at h
      rw [hd] at whole
      simp only [List.length_cons, List.length_nil] at whole
      simp only [← h, List.length_nil]
      omega
    · cases h
  · rename_i last hne
    simp only [Option.some.injEq] at h
    cases hl : trimEnd body.reverse with
    | nil => exact absurd hl hne
    | cons c cs =>
      rw [hl] at slash trimmed h
      have hc : c ≠ '/' := by simpa using slash
      have cut := length_trimEnd_le ((c :: cs).dropWhile (· ≠ '/'))
      have drop : ((c :: cs).dropWhile (· ≠ '/')).length ≤ cs.length := by
        rw [List.dropWhile_cons_of_pos (by simpa using hc)]
        exact (List.dropWhile_suffix _).length_le
      simp only [List.length_cons] at trimmed
      simp only [← h, List.length_append, List.length_reverse]
      omega

theorem length_parent_lt {path parent : String} (h : parent? path = some parent) :
    parent.toList.length < path.toList.length := by
  obtain ⟨rest, hr, rfl⟩ := Option.map_eq_some_iff.1 h
  simpa using length_beforeLast_lt hr

/-- A path and the directories above it, from the innermost outwards, short of the working
directory. -/
def ancestors (path : String) : List String :=
  if path = "" then []
  else
    match _h : parent? path with
    | none => [path]
    | some parent => path :: ancestors parent
termination_by path.toList.length
decreasing_by exact length_parent_lt ‹_›

/-- The path of `name` below a directory. -/
def join (directory name : String) : String :=
  if endsInSlash directory then directory ++ name else directory ++ "/" ++ name

end JumpHost.Path
