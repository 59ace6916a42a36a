/-
**The lines of a ledger and the records in them.**

A ledger is read line by line, so what a writer must ensure is that its record gets a line of its
own.  The lines are counted as a reader counts them: a last line need not end in a line break, and
a final line break begins no further line.  Appending adds the lines of the new record to those
that were there, whatever bytes stood before it, and a plain record adds one line that reads back
as the record.

Main definitions:

* `JumpHost.HostKey.IsPlain`, `JumpHost.HostRecord.IsPlain` — keys and records whose fields are
  words that no reader takes for a comment or a marker;
* `JumpHost.Ledger.lines` — the lines of a ledger.

Main results:

* `JumpHost.HostRecord.ofLine?_line` — **the line of a plain record reads back**;
* `JumpHost.HostRecord.isPlain_of_ofLine?` — a record that is read is plain;
* `JumpHost.Ledger.records_eq_listOfText` — the records are those of the file read as one text;
* `JumpHost.Ledger.lines_appended` — appending adds lines behind those that were there;
* `JumpHost.Ledger.records_appended` — **a plain record that is appended is read as one more
  record**.
-/

import JumpHost.Ledger.Contents
import JumpHost.Proofs.Base64
import JumpHost.Proofs.Text.Utf8

set_option autoImplicit false

namespace JumpHost

/-! ### Plain records -/

/-- A key whose type is a word and whose blob is not empty. -/
structure HostKey.IsPlain (k : HostKey) : Prop where
  keyType : Text.IsWord k.keyType.toList
  blob : k.blob ≠ []

instance (k : HostKey) : Decidable k.IsPlain :=
  decidable_of_iff (Text.IsWord k.keyType.toList ∧ k.blob ≠ [])
    ⟨fun h => ⟨h.1, h.2⟩, fun h => ⟨h.keyType, h.blob⟩⟩

/-- A record of a plain key whose pattern is a word that begins no comment and no marker. -/
structure HostRecord.IsPlain (r : HostRecord) : Prop where
  pattern : Text.IsWord r.pattern.toList
  notRemark : isRemark r.pattern.toList = false
  key : r.key.IsPlain

instance (r : HostRecord) : Decidable r.IsPlain :=
  decidable_of_iff
    (Text.IsWord r.pattern.toList ∧ HostRecord.isRemark r.pattern.toList = false ∧ r.key.IsPlain)
    ⟨fun h => ⟨h.1, h.2.1, h.2.2⟩, fun h => ⟨h.pattern, h.notRemark, h.key⟩⟩

namespace HostRecord

theorem toList_line (r : HostRecord) :
    r.line.toList =
      r.pattern.toList ++ ' ' :: (r.key.keyType.toList ++ ' ' :: Base64.encode r.key.blob) := by
  simp [line]

theorem words_line {r : HostRecord} (h : r.IsPlain) :
    Text.words r.line.toList =
      [r.pattern.toList, r.key.keyType.toList, Base64.encode r.key.blob] := by
  rw [toList_line, Text.words_append_cons _ _ (by decide), Text.words_append_cons _ _ (by decide),
    Text.words_of_isWord h.pattern, Text.words_of_isWord h.key.keyType,
    Text.words_of_isWord (Base64.isWord_encode h.key.blob)]
  rfl

/-- **The line of a plain record reads back.** -/
theorem ofLine?_line {r : HostRecord} (h : r.IsPlain) : ofLine? r.line.toList = some r := by
  unfold ofLine?
  rw [words_line h]
  simp [h.notRemark]

/-- **A record that is read is plain**, whatever stands in its line. -/
theorem isPlain_of_ofLine? {line : List Char} {r : HostRecord} (h : ofLine? line = some r) :
    r.IsPlain := by
  unfold ofLine? at h
  split at h
  · rename_i pattern keyType blob rest hwords
    have hword {w : List Char} (hw : w ∈ [pattern, keyType, blob]) : Text.IsWord w := by
      refine Text.isWord_of_mem_words (s := line) ?_
      rw [hwords]
      exact List.mem_append_left rest hw
    split at h
    · cases h
    · rename_i hremark
      obtain ⟨bytes, hblob, rfl⟩ := Option.map_eq_some_iff.1 h
      refine ⟨?_, ?_, ?_, ?_⟩
      · rw [String.toList_ofList]
        exact hword (by simp)
      · rw [String.toList_ofList]
        simpa using hremark
      · rw [String.toList_ofList]
        exact hword (by simp)
      · -- no bytes have no text, which is no word
        rintro rfl
        exact (hword (w := blob) (by simp)).1 (Base64.encode_of_decode? hblob).symm
  · cases h

theorem ofLine?_nil : ofLine? [] = none := by decide

theorem lineBreak_notMem_line {r : HostRecord} (h : r.IsPlain) :
    Ledger.lineBreak ∉ Text.bytesOf r.line := by
  intro hmem
  have hbreak : '\n' ∈ r.line.toList := Text.mem_of_mem_utf8 (by decide) hmem
  have hblank : ∀ c, Text.isBlank c = false → '\n' ≠ c := by
    rintro c hc rfl
    exact absurd hc (by decide)
  rw [toList_line] at hbreak
  simp only [List.mem_append, List.mem_cons] at hbreak
  rcases hbreak with hp | hs | ht | hs | hb
  · exact hblank _ (h.pattern.2 _ hp) rfl
  · exact absurd hs (by decide)
  · exact hblank _ (h.key.keyType.2 _ ht) rfl
  · exact absurd hs (by decide)
  · exact hblank _ (Base64.isBlank_of_mem_encode hb) rfl

end HostRecord

namespace Ledger

/-! ### Lines -/

/-- The lines of a ledger, each without its line break.  Behind a final line break no line
begins. -/
def lines (contents : List UInt8) : List (List UInt8) :=
  if atLineStart contents then (contents.splitOn lineBreak).dropLast
  else contents.splitOn lineBreak

/-- The record of a line, if it carries one. -/
def recordOf? (line : List UInt8) : Option HostRecord :=
  HostRecord.ofLine? (Text.ofUtf8Lossy line)

theorem atLineStart_append_cons (s t : List UInt8) :
    atLineStart (s ++ lineBreak :: t) = atLineStart t := by
  cases t with
  | nil => simp [atLineStart]
  | cons b t =>
    simp only [atLineStart, List.getLast?_append, List.getLast?_cons_cons]
    rw [List.getLast?_cons, Option.some_or]

theorem atLineStart_iff {contents : List UInt8} :
    atLineStart contents = true ↔ contents = [] ∨ ∃ s, contents = s ++ [lineBreak] := by
  constructor
  · intro h
    rcases List.eq_nil_or_concat contents with rfl | ⟨s, b, rfl⟩
    · exact Or.inl rfl
    · refine Or.inr ⟨s, ?_⟩
      rw [show b = lineBreak by simpa [atLineStart] using h, List.concat_eq_append]
  · rintro (rfl | ⟨s, rfl⟩)
    · rfl
    · simp [atLineStart]

/-- A line break ends the line before it. -/
theorem lines_append_cons (s t : List UInt8) :
    lines (s ++ lineBreak :: t) = s.splitOn lineBreak ++ lines t := by
  unfold lines
  rw [atLineStart_append_cons, List.splitOn_append_cons_self]
  split
  · rw [List.dropLast_append_of_ne_nil (List.splitOn_ne_nil _ _)]
  · rfl

/-- What stands behind a line break is read on its own. -/
theorem lines_append {s : List UInt8} (h : atLineStart s = true) (t : List UInt8) :
    lines (s ++ t) = lines s ++ lines t := by
  rcases atLineStart_iff.1 h with rfl | ⟨s, rfl⟩
  · rfl
  · rw [List.append_assoc, List.singleton_append, lines_append_cons, lines_append_cons]
    simp [lines, atLineStart]

/-- What stands behind an unfinished line, with a line break between, is read on its own. -/
theorem lines_append_lineBreak {s : List UInt8} (h : atLineStart s = false) (t : List UInt8) :
    lines (s ++ lineBreak :: t) = lines s ++ lines t := by
  rw [lines_append_cons]
  simp [lines, h]

theorem lines_singleton {l : List UInt8} (h : lineBreak ∉ l) : lines (l ++ [lineBreak]) = [l] := by
  rw [lines_append_cons, List.splitOn_eq_singleton h]
  simp [lines, atLineStart]

/-! ### Records -/

theorem recordOf?_nil : recordOf? [] = none := by
  rw [recordOf?, Text.ofUtf8Lossy, HostRecord.ofLine?_nil]

theorem records_eq_filterMap_lines (contents : List UInt8) :
    records contents = (lines contents).filterMap recordOf? := by
  have hsplit : records contents = (contents.splitOn lineBreak).filterMap recordOf? := rfl
  rw [hsplit, lines]
  split
  · rename_i h
    rcases atLineStart_iff.1 h with rfl | ⟨s, rfl⟩
    · simp [recordOf?_nil]
    · rw [List.splitOn_append_cons_self]
      simp [recordOf?_nil]
  · rfl

theorem records_nil : records [] = [] := by
  rw [records_eq_filterMap_lines]
  rfl

/-- The records are those of the file read as one text, whatever bytes it holds. -/
theorem records_eq_listOfText (contents : List UInt8) :
    records contents = HostRecord.listOfText (Text.ofUtf8Lossy contents) := by
  rw [HostRecord.listOfText, Text.splitOn_ofUtf8Lossy, List.filterMap_map]
  rfl

/-! ### Appending -/

/-- What appending a record writes behind a line break or at the start of the file. -/
def entry (r : HostRecord) : List UInt8 := Text.bytesOf r.line ++ [lineBreak]

theorem appended_of_atLineStart {contents : List UInt8} (h : atLineStart contents = true)
    (r : HostRecord) : appended contents r = contents ++ entry r := by
  simp [appended, entry, h]

theorem appended_of_not_atLineStart {contents : List UInt8} (h : atLineStart contents = false)
    (r : HostRecord) : appended contents r = contents ++ lineBreak :: entry r := by
  simp [appended, entry, h]

theorem lines_appended (contents : List UInt8) (r : HostRecord) :
    lines (appended contents r) = lines contents ++ lines (entry r) := by
  cases h : atLineStart contents with
  | true => rw [appended_of_atLineStart h, lines_append h]
  | false => rw [appended_of_not_atLineStart h, lines_append_lineBreak h]

/-- Appending adds records behind those that were there, whatever the record holds. -/
theorem records_appended_eq (contents : List UInt8) (r : HostRecord) :
    records (appended contents r) = records contents ++ records (entry r) := by
  simp only [records_eq_filterMap_lines, lines_appended, List.filterMap_append]

theorem lines_entry {r : HostRecord} (h : r.IsPlain) : lines (entry r) = [Text.bytesOf r.line] :=
  lines_singleton (HostRecord.lineBreak_notMem_line h)

theorem recordOf?_line {r : HostRecord} (h : r.IsPlain) :
    recordOf? (Text.bytesOf r.line) = some r := by
  rw [recordOf?, Text.bytesOf, Text.ofUtf8Lossy_utf8, HostRecord.ofLine?_line h]

/-- **A plain record that is appended is read as one more record**, whatever bytes stood before. -/
theorem records_appended {r : HostRecord} (h : r.IsPlain) (contents : List UInt8) :
    records (appended contents r) = records contents ++ [r] := by
  rw [records_appended_eq, records_eq_filterMap_lines (entry r), lines_entry h]
  simp [recordOf?_line h]

theorem isPlain_of_mem_records {contents : List UInt8} {r : HostRecord}
    (h : r ∈ records contents) : r.IsPlain := by
  obtain ⟨line, -, hline⟩ := List.mem_filterMap.1 h
  exact HostRecord.isPlain_of_ofLine? hline

theorem getLast?_appended (contents : List UInt8) (r : HostRecord) :
    (appended contents r).getLast? = some lineBreak := by
  simp [appended]

end Ledger

end JumpHost
