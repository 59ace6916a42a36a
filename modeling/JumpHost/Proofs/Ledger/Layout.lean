/-
**The layout of a line.**

A line carries a record exactly if it is laid out as one: a host field, a key type and a blob with
white space between them, white space or nothing before them, and behind the blob nothing, or white
space with anything after it.  What stands in a line settles its layout, so no line can be read in
two ways, and the records of a file are those of the lines that are laid out, in their order.

Reading a line and writing its record are not inverse to each other on lines, as white space, the
remarks behind the blob and other lines get lost.  They are on records: those that read back as they
were written are the plain ones, and every record that is read is one of them.

Main definitions:

* `JumpHost.Text.lines` — the lines of a text;
* `JumpHost.HostRecord.Layout` — **the parts of a line that carries a record**.

Main results:

* `JumpHost.HostRecord.Layout.text_injective` — a line is laid out in one way;
* `JumpHost.HostRecord.ofLine?_eq_some_iff` — the reader finds the record of a line exactly if it is
  laid out;
* `JumpHost.HostRecord.load_layouts` — **a ledger holds the records of the lines that are laid
  out**;
* `JumpHost.HostRecord.line_reads_back_iff` — **the records that read back are the plain ones**.
-/

import JumpHost.Proofs.Ledger.File

set_option autoImplicit false

namespace JumpHost

/-! ### The lines of a text -/

namespace Text

/-- White space between two words. -/
def IsGap (s : List Char) : Prop := s ≠ [] ∧ ∀ c ∈ s, isBlank c = true

instance (s : List Char) : Decidable (IsGap s) :=
  @instDecidableAnd _ _ _ (List.decidableBAll (fun c => isBlank c = true) s)

/-- A line without the carriage return at its end. -/
def withoutReturn (line : List Char) : List Char :=
  if line.getLast? = some '\r' then line.dropLast else line

/-- The lines of a text.  A line break ends a line, with a carriage return or without; behind the
last one stands another line, unless nothing does. -/
def lines (s : List Char) : List (List Char) :=
  (s.splitOn '\n').dropLast.map withoutReturn ++
    (s.splitOn '\n').getLast?.toList.filter (· ≠ [])

/-- A carriage return at the end of a line is no part of a word. -/
theorem words_withoutReturn (line : List Char) : words (withoutReturn line) = words line := by
  unfold withoutReturn
  split
  · rename_i h
    obtain ⟨ne, hlast⟩ := List.getLast?_eq_some_iff.1 h
    rw [hlast, List.dropLast_concat, words_append_cons ne [] (by decide)]
    exact (List.append_nil _).symm
  · rfl

end Text

namespace HostRecord

theorem ofLine?_eq_of_words {line line' : List Char} (h : Text.words line = Text.words line') :
    ofLine? line = ofLine? line' := by
  unfold ofLine?
  rw [h]

theorem listOfText_eq_filterMap_lines (s : List Char) :
    listOfText s = (Text.lines s).filterMap ofLine? := by
  have hreturn : ofLine? ∘ Text.withoutReturn = ofLine? :=
    funext fun line => ofLine?_eq_of_words (Text.words_withoutReturn line)
  have hne : s.splitOn '\n' ≠ [] := List.splitOn_ne_nil _ _
  unfold listOfText Text.lines
  rw [List.filterMap_append, List.filterMap_map, hreturn, List.getLast?_eq_some_getLast hne]
  conv_lhs => rw [← List.dropLast_append_getLast hne, List.filterMap_append]
  congr 1
  -- a last line without anything in it carries no record
  by_cases hlast : (s.splitOn '\n').getLast hne = []
  · simp [hlast, ofLine?_nil]
  · simp [hlast]

/-! ### Layouts -/

/-- **The parts of a line that carries a record.** -/
@[ext] structure Layout where
  /-- White space before the record. -/
  indent : List Char
  /-- The record. -/
  record : HostRecord
  /-- White space between the host field and the key type. -/
  gap : List Char
  /-- White space between the key type and the blob. -/
  space : List Char
  /-- What stands behind the blob. -/
  tail : List Char
  indent_blank : ∀ c ∈ indent, Text.isBlank c = true
  record_plain : record.IsPlain
  gap_isGap : Text.IsGap gap
  space_isGap : Text.IsGap space
  tail_blank : ∀ c, tail.head? = some c → Text.isBlank c = true

namespace Layout

/-- The line. -/
def text (l : Layout) : List Char :=
  l.indent ++ (l.record.pattern.toList ++ (l.gap ++ (l.record.key.keyType.toList ++
    (l.space ++ (Base64.encode l.record.key.blob ++ l.tail)))))

end Layout

theorem isBlank_of_head?_gap {gap s : List Char} (h : Text.IsGap gap) :
    ∀ c, (gap ++ s).head? = some c → Text.isBlank c = true := by
  obtain ⟨d, gap, rfl⟩ := List.exists_cons_of_ne_nil h.1
  rintro _ ⟨⟩
  exact h.2 d List.mem_cons_self

theorem not_isBlank_of_head?_word {w s : List Char} (h : Text.IsWord w) :
    ∀ c, (w ++ s).head? = some c → Text.isBlank c = false := by
  obtain ⟨d, w, rfl⟩ := List.exists_cons_of_ne_nil h.1
  rintro _ ⟨⟩
  exact h.2 d List.mem_cons_self

namespace Layout

variable (l : Layout)

theorem isWord_blob : Text.IsWord (Base64.encode l.record.key.blob) :=
  Base64.isWord_encode l.record_plain.key.blob

/-- The words of a line that is laid out. -/
theorem words_text : Text.words l.text =
    l.record.pattern.toList :: l.record.key.keyType.toList ::
      Base64.encode l.record.key.blob :: Text.words l.tail := by
  rw [text, Text.words_append_of_blank l.indent_blank,
    Text.words_append_of_isWord l.record_plain.pattern (isBlank_of_head?_gap l.gap_isGap),
    Text.words_append_of_blank l.gap_isGap.2,
    Text.words_append_of_isWord l.record_plain.key.keyType (isBlank_of_head?_gap l.space_isGap),
    Text.words_append_of_blank l.space_isGap.2,
    Text.words_append_of_isWord l.isWord_blob l.tail_blank]

theorem ofLine?_text : ofLine? l.text = some l.record := by
  unfold ofLine?
  rw [l.words_text]
  simp [l.record_plain.notRemark]

/-- **A line is laid out in one way.** -/
theorem text_injective : Function.Injective text := by
  intro l l' h
  -- the record is the one that the line is read as, so only the white space is left to compare
  have hrecord : l.record = l'.record := by
    have hread := l.ofLine?_text
    rw [h, l'.ofLine?_text] at hread
    exact (Option.some.inj hread).symm
  have hplain := l.record_plain
  have hblob := l.isWord_blob
  unfold text at h
  rw [← hrecord] at h
  obtain ⟨hindent, h⟩ := Text.append_inj_of_run h l.indent_blank l'.indent_blank
    (not_isBlank_of_head?_word hplain.pattern) (not_isBlank_of_head?_word hplain.pattern)
  obtain ⟨hgap, h⟩ := Text.append_inj_of_run (List.append_cancel_left h) l.gap_isGap.2
    l'.gap_isGap.2 (not_isBlank_of_head?_word hplain.key.keyType)
    (not_isBlank_of_head?_word hplain.key.keyType)
  obtain ⟨hspace, h⟩ := Text.append_inj_of_run (List.append_cancel_left h) l.space_isGap.2
    l'.space_isGap.2 (not_isBlank_of_head?_word hblob) (not_isBlank_of_head?_word hblob)
  exact Layout.ext hindent hrecord hgap hspace (List.append_cancel_left h)

end Layout

theorem isGap_of_head?_blank {gap w rest : List Char} (hgap : ∀ c ∈ gap, Text.isBlank c = true)
    (hw : Text.IsWord w) (h : ∀ c, (gap ++ (w ++ rest)).head? = some c → Text.isBlank c = true) :
    Text.IsGap gap := by
  refine ⟨?_, hgap⟩
  rintro rfl
  obtain ⟨d, w, rfl⟩ := List.exists_cons_of_ne_nil hw.1
  have hblank := h d rfl
  rw [hw.2 d List.mem_cons_self] at hblank
  cases hblank

/-- **The reader finds the record of a line exactly if it is laid out.** -/
theorem ofLine?_eq_some_iff {line : List Char} {r : HostRecord} :
    ofLine? line = some r ↔ ∃ l : Layout, l.text = line ∧ l.record = r := by
  constructor
  · intro h
    have hplain := isPlain_of_ofLine? h
    have hblob := Base64.isWord_encode hplain.key.blob
    have hwords : ∃ more, Text.words line = r.pattern.toList :: r.key.keyType.toList ::
        Base64.encode r.key.blob :: more := by
      unfold ofLine? at h
      split at h
      · rename_i pattern keyType blob more hwords
        split at h
        · cases h
        · obtain ⟨bytes, hbytes, rfl⟩ := Option.map_eq_some_iff.1 h
          refine ⟨more, ?_⟩
          rw [hwords, Base64.encode_of_decode? hbytes, String.toList_ofList, String.toList_ofList]
      · cases h
    obtain ⟨more, hwords⟩ := hwords
    obtain ⟨indent, rest₁, rfl, hindent, hhead₁, hwords⟩ := Text.exists_of_words_eq_cons hwords
    obtain ⟨gap, rest₂, rfl, hgap, hhead₂, hwords⟩ := Text.exists_of_words_eq_cons hwords
    obtain ⟨space, tail, rfl, hspace, htail, -⟩ := Text.exists_of_words_eq_cons hwords
    exact ⟨⟨indent, r, gap, space, tail, hindent, hplain,
      isGap_of_head?_blank hgap hplain.key.keyType hhead₁,
      isGap_of_head?_blank hspace hblob hhead₂, htail⟩, rfl, rfl⟩
  · rintro ⟨l, rfl, rfl⟩
    exact l.ofLine?_text

/-- A line is laid out as one that carries a record. -/
def IsLaidOut (line : List Char) : Prop := ∃ l : Layout, l.text = line

theorem isLaidOut_iff {line : List Char} : IsLaidOut line ↔ (ofLine? line).isSome = true := by
  rw [Option.isSome_iff_exists]
  constructor
  · rintro ⟨l, rfl⟩
    exact ⟨l.record, l.ofLine?_text⟩
  · rintro ⟨r, hr⟩
    obtain ⟨l, hl, -⟩ := ofLine?_eq_some_iff.1 hr
    exact ⟨l, hl⟩

instance (line : List Char) : Decidable (IsLaidOut line) := decidable_of_iff _ isLaidOut_iff.symm

/-- The records of some lines are those of the lines that are laid out, in their order. -/
theorem exists_layouts (lines : List (List Char)) :
    ∃ layouts : List Layout, layouts.map Layout.text = lines.filter IsLaidOut ∧
      lines.filterMap ofLine? = layouts.map Layout.record := by
  induction lines with
  | nil => exact ⟨[], rfl, rfl⟩
  | cons line lines ih =>
    obtain ⟨layouts, htext, hrecords⟩ := ih
    by_cases h : IsLaidOut line
    · obtain ⟨l, rfl⟩ := h
      refine ⟨l :: layouts, ?_, ?_⟩
      · rw [List.filter_cons_of_pos (by simpa using ⟨l, rfl⟩), List.map_cons, htext]
      · rw [List.filterMap_cons_some l.ofLine?_text, List.map_cons, hrecords]
    · have hnone : ofLine? line = none := by
        rwa [isLaidOut_iff, Bool.not_eq_true, Option.isSome_eq_false_iff, Option.isNone_iff_eq_none]
          at h
      refine ⟨layouts, ?_, ?_⟩
      · rw [List.filter_cons_of_neg (by simpa using h), htext]
      · rw [List.filterMap_cons_none hnone, hrecords]

/-- **A ledger holds the records of the lines that are laid out.**  A line carries a record exactly
if it is laid out with that record, which it is in one way at most; every other line carries none.
Reading a file of any bytes gives the records of the lines of its text that are laid out, in their
order. -/
theorem load_layouts :
    (∀ line r, ofLine? line = some r ↔ ∃ l : Layout, l.text = line ∧ l.record = r) ∧
      (∀ l l' : Layout, l.text = l'.text → l = l') ∧
      (∀ line, ofLine? line = none ↔ ∀ l : Layout, l.text ≠ line) ∧
      ∀ (t : FileTree) (path : String) (bytes : List UInt8), t.open? path = .ok (.ok bytes) →
        ∃ layouts : List Layout,
          layouts.map Layout.text = (Text.lines (Text.ofUtf8Lossy bytes)).filter IsLaidOut ∧
            Ledger.load t path = .ok (layouts.map Layout.record) := by
  refine ⟨fun _ _ => ofLine?_eq_some_iff, fun _ _ h => Layout.text_injective h, ?_, ?_⟩
  · intro line
    rw [Option.eq_none_iff_forall_ne_some]
    constructor
    · rintro h l rfl
      exact h _ l.ofLine?_text
    · intro h r hr
      obtain ⟨l, hl, -⟩ := ofLine?_eq_some_iff.1 hr
      exact h l hl
  · intro t path bytes hbytes
    obtain ⟨layouts, htext, hrecords⟩ := exists_layouts (Text.lines (Text.ofUtf8Lossy bytes))
    refine ⟨layouts, htext, ?_⟩
    rw [Ledger.load, hbytes, ← hrecords, ← listOfText_eq_filterMap_lines,
      ← Ledger.records_eq_listOfText]

/-- White space of any kind, carriage returns and remarks behind a blob do no harm; comments,
markers and blobs with stray bits carry no record. -/
theorem load_layouts_untidy :
    let text := "# a ssh-rsa AQ==\n\u00a0a\tssh-rsa  AQ== of old\r\nb ssh-rsa AR==\n" ++
      "@revoked c ssh-rsa AQ==\nd ssh-ed25519\u2003Ag=="
    Ledger.load (Ledger.home (Text.bytesOf text)) ".ssh/known_hosts" =
      .ok [⟨"a", ⟨"ssh-rsa", [1]⟩⟩, ⟨"d", ⟨"ssh-ed25519", [2]⟩⟩] := by
  intro text
  let first : Layout :=
    { indent := ['\u00a0'], record := ⟨"a", ⟨"ssh-rsa", [1]⟩⟩, gap := ['\t'], space := [' ', ' ']
      tail := " of old".toList, indent_blank := by simp [Text.isBlank], record_plain := by decide
      gap_isGap := by decide, space_isGap := by decide, tail_blank := by rintro _ ⟨⟩; decide }
  let second : Layout :=
    { indent := [], record := ⟨"d", ⟨"ssh-ed25519", [2]⟩⟩, gap := [' '], space := ['\u2003']
      tail := [], indent_blank := by simp, record_plain := by decide
      gap_isGap := by decide, space_isGap := by decide, tail_blank := by simp }
  obtain ⟨-, hinjective, -, hload⟩ := load_layouts
  obtain ⟨layouts, htext, hrecords⟩ :=
    hload (Ledger.home (Text.bytesOf text)) ".ssh/known_hosts" (Text.bytesOf text) rfl
  have hlaidOut : (Text.lines text.toList).filter IsLaidOut = [first, second].map Layout.text := by
    decide +kernel
  rw [Text.bytesOf, Text.ofUtf8Lossy_utf8, hlaidOut] at htext
  rw [hrecords, List.map_injective_iff.2 (fun l l' => hinjective l l') htext]
  rfl

/-! ### Records that read back -/

/-- A record reads back from its line exactly if it is plain. -/
theorem ofLine?_line_iff {r : HostRecord} : ofLine? r.line.toList = some r ↔ r.IsPlain :=
  ⟨isPlain_of_ofLine?, ofLine?_line⟩

/-- A ledger of plain records holds these. -/
theorem records_foldl_appended {rs : List HostRecord} (h : ∀ r ∈ rs, r.IsPlain)
    (contents : List UInt8) :
    Ledger.records (rs.foldl Ledger.appended contents) = Ledger.records contents ++ rs := by
  induction rs generalizing contents with
  | nil => simp
  | cons r rs ih =>
    obtain ⟨hr, hrs⟩ := List.forall_mem_cons.1 h
    rw [List.foldl_cons, ih hrs, Ledger.records_appended hr, List.append_assoc]
    rfl

/-- **The records that read back are the plain ones.**  The line of a record is read as that record
exactly if the record is plain; whatever line a record was read from, it is plain, and so it is read
again from its own line.  A ledger that is written anew from its records holds the same records. -/
theorem line_reads_back_iff :
    (∀ r : HostRecord, ofLine? r.line.toList = some r ↔ r.IsPlain) ∧
      (∀ line r, ofLine? line = some r → r.IsPlain ∧ ofLine? r.line.toList = some r) ∧
      ∀ bytes, Ledger.records ((Ledger.records bytes).foldl Ledger.appended []) =
        Ledger.records bytes := by
  refine ⟨fun _ => ofLine?_line_iff, fun line r h => ?_, fun bytes => ?_⟩
  · have hplain := isPlain_of_ofLine? h
    exact ⟨hplain, ofLine?_line hplain⟩
  · rw [records_foldl_appended fun r hr => Ledger.isPlain_of_mem_records hr, Ledger.records_nil,
      List.nil_append]

/-- A record that was read from an untidy line reads back from its own; one with white space of
another script in its pattern, or without a blob, does not. -/
theorem line_reads_back_iff_untidy :
    let read : HostRecord := ⟨"a", ⟨"ssh-rsa", [1]⟩⟩
    let split : HostRecord := ⟨"a\u2003b", ⟨"ssh-rsa", [1]⟩⟩
    let bare : HostRecord := ⟨"a", ⟨"ssh-rsa", []⟩⟩
    ofLine? read.line.toList = some read ∧ ofLine? split.line.toList ≠ some split ∧
      ofLine? bare.line.toList ≠ some bare := by
  intro read split bare
  obtain ⟨hplain, hagain, -⟩ := line_reads_back_iff
  have hread : ofLine? "\u00a0a\tssh-rsa  AQ== of old\r".toList = some read := by decide +kernel
  refine ⟨(hagain _ _ hread).2, ?_, ?_⟩
  · rw [ne_eq, hplain]
    decide +kernel
  · rw [ne_eq, hplain]
    decide +kernel

end HostRecord

end JumpHost
