/-
**The grammar of database URLs.**

What a database URL is, said without a reader: a scheme, the userinfo, a host and a port, a path and
a query, and the marks between them.  Every one of the marks may also stand in one part or another,
and the grammar says where it may not, so that no text is a URL in two ways.  The reader accepts
exactly these texts and loses nothing of them, and it refuses every other text as no URL.

The reader takes slices of the text by places in it, counted in bytes.  None of the slices is out of
range or cuts a character, whatever the text holds, also where the text is refused and shown.

Main definitions:

* `JumpHost.DatabaseUrl.UserText`, `JumpHost.DatabaseUrl.HostText`,
  `JumpHost.DatabaseUrl.PortText`, `JumpHost.DatabaseUrl.RestText` — the parts as they are written;
* `JumpHost.DatabaseUrl.IsUrl` — **a text is a URL with the given parts**;
* `JumpHost.DatabaseUrl.readSliced?` — the reader by its slices, nothing if one cannot be taken.

Main results:

* `JumpHost.DatabaseUrl.ofText?_eq_some_iff` — the reader finds the parts of a URL;
* `JumpHost.DatabaseUrl.readSliced?_eq` — every slice can be taken;
* `JumpHost.DatabaseUrl.read_accepts_grammar` — **the reader accepts the URLs and nothing else**.
-/

import JumpHost.Proofs.Database.Url
import JumpHost.Proofs.Text.Numeral
import JumpHost.Proofs.Text.Slice

set_option autoImplicit false

namespace JumpHost.DatabaseUrl

variable {url : String} {u : DatabaseUrl}

/-! ### The grammar -/

/-- A userinfo as it is written before a host, with an `@` behind it. -/
inductive UserText : Option String → String → Prop
  | absent : UserText none ""
  | given (user : String) : UserText (some user) (user ++ "@")

/-- A host as it is written, in brackets or without them. -/
inductive HostText (host : String) : String → Prop
  | bracketed (h : ']' ∉ host.toList) : HostText host ("[" ++ host ++ "]")
  | bare (hhead : host.toList.head? ≠ some '[') (hcolon : ':' ∉ host.toList) : HostText host host

/-- A port as it is written behind a host. -/
inductive PortText : Option UInt16 → String → Prop
  | absent : PortText none ""
  | given {p : UInt16} {digits : String} (h : Text.IsPort p digits.toList) :
      PortText (some p) (":" ++ digits)

/-- A path, a query or both, or nothing. -/
inductive RestText : String → Prop
  | absent : RestText ""
  | path (s : String) : RestText ("/" ++ s)
  | query (s : String) : RestText ("?" ++ s)

/-- **A text is a URL with the given parts.** -/
inductive IsUrl : String → DatabaseUrl → Prop
  | parts {u : DatabaseUrl} {user host port : String}
      (hscheme : u.scheme ≠ "") (hmark : ¬"://".toList <:+: u.scheme.toList)
      (huser : UserText u.userinfo user) (hhost : HostText u.host host) (hne : u.host ≠ "")
      (hport : PortText u.port port) (hrest : RestText u.rest)
      (hauthority : ∀ c ∈ (user ++ (host ++ port)).toList, c ≠ '/' ∧ c ≠ '?')
      (hlast : '@' ∉ (host ++ port).toList) :
      IsUrl (u.scheme ++ "://" ++ (user ++ (host ++ port)) ++ u.rest) u

theorem userText_iff {user : String} : UserText u.userinfo user ↔ user = u.credentials := by
  unfold credentials
  cases u.userinfo with
  | none =>
    constructor
    · rintro ⟨⟩
      rfl
    · rintro rfl
      exact .absent
  | some name =>
    constructor
    · rintro ⟨⟩
      rfl
    · rintro rfl
      exact .given name

theorem restText_iff {rest : String} :
    RestText rest ↔ ∀ c, rest.toList.head? = some c → c = '/' ∨ c = '?' := by
  constructor
  · rintro (_ | s | s)
    · simp
    · simp
    · simp
  · intro h
    cases hrest : rest.toList with
    | nil =>
      obtain rfl : rest = "" := String.toList_injective hrest
      exact .absent
    | cons c s =>
      have htext (first : Char) (hc : c = first) : rest = String.ofList [first] ++ String.ofList s :=
        String.toList_injective (by simp [hrest, hc])
      rcases h c (by rw [hrest]; rfl) with hc | hc
      · rw [htext _ hc]
        exact .path _
      · rw [htext _ hc]
        exact .query _

theorem spells_iff {host : String} {port : Option UInt16} {hostPort : String} :
    Spells host.toList port hostPort.toList ↔
      ∃ h p : String, HostText host h ∧ PortText port p ∧ hostPort = h ++ p := by
  constructor
  · intro h
    generalize htext : hostPort.toList = text at h
    cases h with
    | bare hhead hcolon =>
      exact ⟨host, "", .bare hhead hcolon, .absent, String.toList_injective (by simp [htext])⟩
    | @port p digits hhead hcolon hport =>
      refine ⟨host, ":" ++ String.ofList digits, .bare hhead hcolon, .given ?_,
        String.toList_injective (by simp [htext])⟩
      simpa using Text.port?_eq_some_iff.1 hport
    | bracketed hclose =>
      exact ⟨"[" ++ host ++ "]", "", .bracketed hclose, .absent,
        String.toList_injective (by simp [htext])⟩
    | @bracketedPort p digits hclose hport =>
      refine ⟨"[" ++ host ++ "]", ":" ++ String.ofList digits, .bracketed hclose, .given ?_,
        String.toList_injective (by simp [htext])⟩
      simpa using Text.port?_eq_some_iff.1 hport
  · rintro ⟨h, p, hhost, hport, rfl⟩
    cases hhost with
    | bracketed hclose =>
      cases hport with
      | absent => simpa using Spells.bracketed hclose
      | given hport => simpa using Spells.bracketedPort hclose (Text.port?_eq_some_iff.2 hport)
    | bare hhead hcolon =>
      cases hport with
      | absent => simpa using Spells.bare hhead hcolon
      | given hport => simpa using Spells.port hhead hcolon (Text.port?_eq_some_iff.2 hport)

theorem endsAuthority_eq_true_iff {c : Char} : endsAuthority c = true ↔ c = '/' ∨ c = '?' := by
  simp [endsAuthority]

theorem isUrl_of_ofText? (h : ofText? url.toList = some u) : IsUrl url u := by
  cases hcut : Text.cut schemeMark url.toList with
  | none => simp [ofText?, hcut] at h
  | some pieces =>
    obtain ⟨scheme, remainder⟩ := pieces
    have hscheme : scheme ≠ [] := by
      rintro rfl
      simp [ofText?, hcut] at h
    rw [ofText?_of_cut hcut hscheme] at h
    obtain ⟨hs, hne, text, hsplit⟩ := ofRemainder?_eq_some_iff.1 h
    obtain ⟨htext, hmark⟩ := (Text.cut_eq_some_iff (by decide)).1 hcut
    -- the host and the port stand in the text as the grammar writes them
    have hspelt : Spells u.host.toList u.port (String.ofList text).toList := by
      simpa using hsplit.spells
    obtain ⟨host, port, hhost, hport, hwritten⟩ := spells_iff.1 hspelt
    obtain rfl : text = (host ++ port).toList := by simp [← hwritten]
    have hurl : url = u.scheme ++ "://" ++ (u.credentials ++ (host ++ port)) ++ u.rest := by
      apply String.toList_injective
      rw [htext, hsplit.text, hs]
      simp
    rw [hurl]
    refine .parts (by simpa [hs] using hscheme) (by simpa [hs] using hmark)
      (userText_iff.2 rfl) hhost hne hport ?_ ?_ hsplit.last
    · exact restText_iff.2 fun c hc => endsAuthority_eq_true_iff.1 (hsplit.rest c hc)
    · intro c hc
      rw [← not_or, ← endsAuthority_eq_true_iff, hsplit.authority c (by simpa using hc)]
      exact Bool.false_ne_true

theorem ofText?_of_isUrl (h : IsUrl url u) : ofText? url.toList = some u := by
  obtain ⟨hscheme, hmark, huser, hhost, hne, hport, hrest, hauthority, hlast⟩ := h
  rename_i user host port
  obtain rfl := userText_iff.1 huser
  -- the first mark is the one behind the scheme, whatever stands behind it
  have hcut := cut_schemeMark hmark
    ((u.credentials ++ (host ++ port)).toList ++ u.rest.toList)
  have hurl : (u.scheme ++ "://" ++ (u.credentials ++ (host ++ port)) ++ u.rest).toList =
      u.scheme.toList ++ schemeMark ++
        ((u.credentials ++ (host ++ port)).toList ++ u.rest.toList) := by
    simp [schemeMark]
  rw [hurl, ofText?_of_cut hcut (by simpa using hscheme), ofRemainder?_eq_some_iff]
  refine ⟨by simp, hne, (host ++ port).toList, by simp, ?_, ?_, hlast, ?_⟩
  · intro c hc
    rw [← Bool.not_eq_true, endsAuthority_eq_true_iff, not_or]
    exact hauthority c (by simpa using hc)
  · exact fun c hc => endsAuthority_eq_true_iff.2 (restText_iff.1 hrest c hc)
  · exact spells_iff.2 ⟨host, port, hhost, hport, rfl⟩

/-- **The reader finds the parts of a URL.** -/
theorem ofText?_eq_some_iff : ofText? url.toList = some u ↔ IsUrl url u :=
  ⟨isUrl_of_ofText?, ofText?_of_isUrl⟩

/-! ### Slices -/

/-- A URL as it may be shown, by a slice at the last `@`. -/
def redactSliced? (url : String) : Option String :=
  match Text.cut schemeMark url.toList, Text.findLast? '@' url.toList with
  | some (scheme, _), some n =>
    (Text.splitBytes? n url.toList).map fun (_, behind) =>
      String.ofList (scheme ++ schemeMark ++ ['*', '*', '*'] ++ behind)
  | _, _ => some url

/-- **The reader by its slices**: behind the scheme and its mark, and at the end of the authority.
Nothing is read if one of them cannot be taken. -/
def readSliced? (url : String) : Option (Except TunnelError DatabaseUrl) :=
  let refused := (redactSliced? url).map fun shown => .error (.invalidUrl shown)
  match schemeOf? url with
  | none => refused
  | some scheme => do
    let (_, remainder) ← Text.splitBytes? (Text.width scheme.toList + 3) url.toList
    let stop := (Text.find? endsAuthority remainder).getD (Text.width remainder)
    let (authority, rest) ← Text.splitBytes? stop remainder
    let (userinfo, hostPort) := splitUserinfo authority
    match splitPort? hostPort with
    | none => refused
    | some (host, port) =>
      if host = [] then refused
      else
        some (.ok ⟨scheme, userinfo.map String.ofList, String.ofList host, port,
          String.ofList rest⟩)

theorem redactSliced?_eq (url : String) : redactSliced? url = some (redact url) := by
  unfold redactSliced? redact
  rw [Text.findLast?_eq]
  cases Text.cut schemeMark url.toList with
  | none => rfl
  | some pieces =>
    cases hlast : Text.cutLast '@' url.toList with
    | none => rfl
    | some parts =>
      obtain ⟨before, behind⟩ := parts
      have hsplit := Text.splitBytes?_eq_some_iff.2 ⟨Text.eq_append_of_cutLast hlast, rfl⟩
      simp [hsplit]

/-- The slice behind the scheme of a URL is what stands behind its mark. -/
theorem splitBytes?_scheme {scheme remainder : List Char}
    (h : Text.cut schemeMark url.toList = some (scheme, remainder)) :
    Text.splitBytes? (Text.width scheme + 3) url.toList = some (scheme ++ schemeMark, remainder) :=
  Text.splitBytes?_eq_some_iff.2 ⟨Text.eq_append_of_cut h, Text.width_append scheme schemeMark⟩

/-- **Every slice of the reader can be taken.** -/
theorem readSliced?_eq (url : String) : readSliced? url = some (read url) := by
  have hrefused (h : ofText? url.toList = none) :
      read url = .error (.invalidUrl (redact url)) := read_eq_error_iff.2 ⟨h, rfl⟩
  unfold readSliced?
  rw [redactSliced?_eq]
  cases hcut : Text.cut schemeMark url.toList with
  | none =>
    rw [hrefused (by simp [ofText?, hcut])]
    simp [schemeOf?, hcut]
  | some pieces =>
    obtain ⟨scheme, remainder⟩ := pieces
    by_cases hscheme : scheme = []
    · subst hscheme
      rw [hrefused (by simp [ofText?, hcut])]
      simp [schemeOf?, hcut]
    · have hread := ofText?_of_cut hcut hscheme
      simp only [schemeOf?, hcut, if_neg hscheme, String.toList_ofList, splitBytes?_scheme hcut,
        Text.splitBytes?_find?, Option.bind_eq_bind, Option.bind_some]
      unfold ofRemainder? at hread
      dsimp only at hread
      cases hport : splitPort? (splitUserinfo (remainder.takeWhile (!endsAuthority ·))).2 with
      | none =>
        rw [hport] at hread
        rw [hrefused hread]
        rfl
      | some found =>
        obtain ⟨host, port⟩ := found
        rw [hport] at hread
        cases host with
        | nil =>
          rw [hrefused hread]
          rfl
        | cons c host =>
          rw [read_eq_ok_iff.2 hread]
          rfl

/-! ### The reader -/

/-- **The reader accepts the URLs and nothing else**: it finds the parts of a URL, no text is a URL
in two ways, every other text is refused as it may be shown, and every slice on the way can be
taken. -/
theorem read_accepts_grammar (url : String) :
    (∀ u, read url = .ok u ↔ IsUrl url u) ∧
    (∀ u v, IsUrl url u → IsUrl url v → u = v) ∧
    ((∀ u, ¬IsUrl url u) → read url = .error (.invalidUrl (redact url))) ∧
    readSliced? url = some (read url) := by
  have hread (u : DatabaseUrl) : read url = .ok u ↔ IsUrl url u :=
    read_eq_ok_iff.trans ofText?_eq_some_iff
  refine ⟨hread, fun u v hu hv => ?_, fun hnone => ?_, readSliced?_eq url⟩
  · rw [← hread] at hu hv
    exact Except.ok.inj (hu.symm.trans hv)
  · refine read_eq_error_iff.2 ⟨Option.eq_none_iff_forall_ne_some.2 fun u hu => ?_, rfl⟩
    exact hnone u (ofText?_eq_some_iff.1 hu)

/-- A URL of characters of several bytes, with marks in the userinfo and brackets around the host,
is read in one way; one with a port that is too large is refused without its userinfo. -/
theorem read_accepts_grammar_marks :
    let url := "pö::s://ü:@ß@[[é]:+0065535?x=://@y"
    let u : DatabaseUrl := ⟨"pö::s", some "ü:@ß", "[é", some 65535, "?x=://@y"⟩
    (IsUrl url u ∧ (∀ v, IsUrl url v → v = u) ∧ readSliced? url = some (.ok u)) ∧
      (∀ v, ¬IsUrl "pö://ü@é:65536" v) ∧
      readSliced? "pö://ü@é:65536" = some (.error (.invalidUrl "pö://***@é:65536")) := by
  intro url u
  obtain ⟨hread, hone, -, hslices⟩ := read_accepts_grammar url
  have hok : read url = .ok u := by decide +kernel
  have hurl := (hread u).1 hok
  obtain ⟨hread', -, hrefused, hslices'⟩ := read_accepts_grammar "pö://ü@é:65536"
  have hunread : ofText? "pö://ü@é:65536".toList = none := by decide +kernel
  have hnone (v : DatabaseUrl) : ¬IsUrl "pö://ü@é:65536" v := by
    rw [← hread', read, hunread]
    nofun
  refine ⟨⟨hurl, fun v hv => hone v u hv hurl, hslices.trans (congrArg some hok)⟩, hnone, ?_⟩
  rw [hslices', hrefused hnone]
  decide +kernel

end JumpHost.DatabaseUrl
