/-
**How a driver reads an address out of a URL.**

A driver takes the host and the port from the authority of its URL, which by the rules of URLs in
general ends before the first slash, question mark or number sign.  Behind the last `@` of the
authority it reads the host up to the first colon that is not in brackets, and then the port.  So it
finds a socket address wherever that is what stands behind the last `@`, whatever the userinfo
before it and the path behind it are, and whatever blanks and line breaks it passes over in them.

Main definitions:

* `JumpHost.DriverUrl.authority?` — the authority of a URL.

Main results:

* `JumpHost.DriverUrl.spanHost_characters`, `JumpHost.DriverUrl.readPort_numeral` — a host and a
  port that were written are read;
* `JumpHost.DriverUrl.checkHost_bracketedHost` — the hosts of the machine itself are accepted;
* `JumpHost.DriverUrl.cleaned_address` — what is passed over stands in the userinfo and the rest;
* `JumpHost.DriverUrl.ofText_of_address` — **a driver finds the address behind the last `@`**;
* `JumpHost.DriverUrl.ofText_of_fragment` — it does not read an address behind a number sign.
-/

import JumpHost.Database.DriverUrl
import JumpHost.Proofs.Database.Url
import JumpHost.Proofs.Network.SocketAddress

set_option autoImplicit false

namespace JumpHost.DriverUrl

/-- The authority of a URL: what stands behind the mark of the scheme, up to the first slash,
question mark or number sign. -/
def authority? (url : List Char) : Option (List Char) :=
  (Text.cut schemeMark url).map fun (_, remainder) => remainder.takeWhile (!endsAuthority ·)

/-! ### The host -/

/-- A host without brackets ends at the first colon. -/
theorem spanHost_append_colon {host : List Char} (hcolon : ':' ∉ host) (hopen : '[' ∉ host)
    (behind : List Char) : spanHost false (host ++ ':' :: behind) = (host, ':' :: behind) := by
  induction host with
  | nil => rfl
  | cons c host ih =>
    simp only [List.mem_cons, not_or] at hcolon hopen
    have hstep : spanHost false (c :: (host ++ ':' :: behind)) =
        (c :: (spanHost false (host ++ ':' :: behind)).1,
          (spanHost false (host ++ ':' :: behind)).2) := by
      rw [spanHost]
      · simp [Ne.symm hopen.1]
      · exact fun h => hcolon.1 h.symm
    rw [List.cons_append, hstep, ih hcolon.2 hopen.2]

/-- Within brackets no colon ends a host. -/
theorem spanHost_append_close {host : List Char} (hclose : ']' ∉ host) (behind : List Char) :
    spanHost true (host ++ ']' :: behind) =
      (host ++ ']' :: (spanHost false behind).1, (spanHost false behind).2) := by
  induction host with
  | nil => simp [spanHost]
  | cons c host ih =>
    simp only [List.mem_cons, not_or] at hclose
    have hstep : spanHost true (c :: (host ++ ']' :: behind)) =
        (c :: (spanHost true (host ++ ']' :: behind)).1,
          (spanHost true (host ++ ']' :: behind)).2) := by
      by_cases hc : c = ':'
      · subst hc
        rfl
      · rw [spanHost]
        · simp [Ne.symm hclose.1]
        · exact hc
    rw [List.cons_append, hstep, ih hclose.2]
    rfl

/-- **The host of an address is read** up to the colon before the port. -/
theorem spanHost_characters (address : SocketAddress) :
    spanHost false address.characters =
      (address.bracketedHost, ':' :: Text.numeral address.port.toNat) := by
  have hopen : '[' ∉ address.host := address.notMem_host (by decide +kernel)
  have hclose : ']' ∉ address.host := address.notMem_host (by decide +kernel)
  rw [SocketAddress.characters_eq]
  cases address with
  | v4 ip port => exact spanHost_append_colon (SocketAddress.colon_notMem_text ip) hopen _
  | v6 ip zone port =>
    have hspan := spanHost_append_close hclose (':' :: Text.numeral port.toNat)
    simp only [SocketAddress.bracketedHost, SocketAddress.port, List.cons_append, List.append_assoc,
      List.nil_append]
    rw [spanHost]
    · simp [hspan, spanHost]
    · decide

/-! ### The port -/

theorem isSome_digitValue?_of_mem_numeral {n : Nat} {c : Char} (h : c ∈ Text.numeral n) :
    (Text.digitValue? c).isSome = true := by
  obtain ⟨d, hd, rfl⟩ := Text.mem_numeral h
  rw [Text.digitValue?_digit hd]
  rfl

/-- **A port that is written is read**, and nothing is left behind it. -/
theorem readPort_numeral (port : UInt16) :
    readPort (':' :: Text.numeral port.toNat) = .ok (some port, []) := by
  have hdigits : (Text.numeral port.toNat).takeWhile (fun c => (Text.digitValue? c).isSome) =
      Text.numeral port.toNat :=
    List.takeWhile_eq_self_iff.2 fun _ => isSome_digitValue?_of_mem_numeral
  have hsize : port.toNat < UInt16.size := port.toNat_lt
  simp [readPort, hdigits, hsize]

/-- The hosts of the machine itself are accepted; a driver knows no zones. -/
theorem checkHost_bracketedHost {address : SocketAddress} (h : address.isLoopback = true)
    (hzone : '%' ∉ address.host) : checkHost address.bracketedHost = .ok () := by
  cases address with
  | v4 ip port =>
    have hopen : '[' ∉ ip.text := SocketAddress.notMem_host (by decide +kernel) (.v4 ip port)
    have hbreaker : ip.text.any isHostBreaker = false := by
      rw [List.any_eq_false]
      intro c hc
      rcases Ipv4.mem_text hc with rfl | ⟨d, hd, rfl⟩
      · decide +kernel
      · have hdigits : ∀ d : Fin 10, ¬isHostBreaker (Text.digit d) = true := by decide +kernel
        exact hdigits ⟨d, hd⟩
    simp only [SocketAddress.bracketedHost]
    unfold checkHost
    split
    · rename_i s hs
      exact absurd (hs ▸ List.mem_cons_self) hopen
    · rw [hbreaker]
      rfl
  | v6 ip zone port =>
    have hzero : zone = 0 := by
      by_contra hne
      exact hzone (by simp [SocketAddress.host, hne])
    have hip : ip = ⟨0, 0, 0, 0, 0, 0, 0, 1⟩ := by
      cases ip
      simpa [SocketAddress.isLoopback, Ipv6.segments] using h
    subst hzero hip
    have hone : checkHost (SocketAddress.v6 ⟨0, 0, 0, 0, 0, 0, 0, 1⟩ 0 0).bracketedHost =
        .ok () := by
      decide +kernel
    exact hone

/-! ### The authority -/

theorem splitUserinfo_append {user hostPort : List Char}
    (huser : user = [] ∨ ∃ w, user = w ++ ['@']) (hlast : '@' ∉ hostPort) :
    (DatabaseUrl.splitUserinfo (user ++ hostPort)).2 = hostPort := by
  rcases huser with rfl | ⟨w, rfl⟩
  · simp [DatabaseUrl.splitUserinfo, Text.cutLast_eq_none_iff.2 hlast]
  · have hcut := Text.cutLast_append_cons hlast w
    simp [DatabaseUrl.splitUserinfo, hcut]

/-- **A driver finds the address behind the last `@`** of the authority. -/
theorem ofRemainder_of_address {s : List Char} {address : SocketAddress}
    (h : (DatabaseUrl.splitUserinfo (s.takeWhile (!endsAuthority ·))).2 = address.characters)
    (hhost : checkHost address.bracketedHost = .ok ()) :
    ∃ v, ofRemainder s = .ok v ∧ v.host = some address.bracketedHost ∧
      v.port = some address.port := by
  have hcut : ∃ user, (Text.cutLast '@' (s.takeWhile (!endsAuthority ·))).getD
      ([], s.takeWhile (!endsAuthority ·)) = (user, address.characters) := by
    unfold DatabaseUrl.splitUserinfo at h
    split at h
    · rename_i user hostPort hcut
      exact ⟨user, by rw [hcut, ← h]; rfl⟩
    · rename_i hcut
      exact ⟨[], by rw [hcut, ← h]; rfl⟩
  obtain ⟨user, hcut⟩ := hcut
  have hauthority : s.takeWhile (!endsAuthority ·) ≠ ['@'] := by
    intro hs
    rw [hs] at hcut
    have : address.characters = [] := by
      simpa [Text.cutLast] using (congrArg Prod.snd hcut).symm
    rw [SocketAddress.characters_eq] at this
    exact absurd this (by simp)
  unfold ofRemainder
  simp only [hcut, hauthority, false_and, if_false, spanHost_characters, hhost,
    address.bracketedHost_ne_nil, readPort_numeral]
  exact ⟨_, rfl, rfl, rfl⟩

/-! ### What is passed over -/

/-- What is passed over anywhere does not count at the ends either. -/
theorem isPassedOver_of_isEdge_eq_false {c : Char} (h : isEdge c = false) :
    isPassedOver c = false := by
  by_contra hp
  simp only [isPassedOver, Bool.not_eq_false, Bool.or_eq_true, decide_eq_true_eq] at hp
  rcases hp with (rfl | rfl) | rfl <;> cases h

theorem dropWhile_isEdge {s : List Char} (h : ∀ c, s.head? = some c → isEdge c = false) :
    s.dropWhile isEdge = s := by
  cases s with
  | nil => rfl
  | cons c s => simp [h c rfl]

/-- The end of a text is trimmed no further than to a character that counts. -/
theorem dropWhile_reverse_append {s : List Char}
    (hs : ∀ c, s.getLast? = some c → isEdge c = false) (t : List Char) :
    ((s ++ t).reverse.dropWhile isEdge).reverse =
      s ++ (t.reverse.dropWhile isEdge).reverse := by
  have hself : s.reverse.dropWhile isEdge = s.reverse :=
    dropWhile_isEdge fun c hc => hs c (by rwa [List.head?_reverse] at hc)
  rw [List.reverse_append, List.dropWhile_append]
  split
  · rename_i hnil
    rw [List.isEmpty_iff.1 hnil, hself]
    simp
  · simp

/-- **What is passed over** in front of a text that begins with a character that counts, or with
nothing at all. -/
theorem cleaned_append {s t : List Char} (hne : s ≠ [])
    (hfirst : ∀ c, s.head? = some c → isEdge c = false)
    (hlast : ∀ c, s.getLast? = some c → isEdge c = false)
    (ht : ∀ c, t.head? = some c → isEdge c = false) :
    ∃ t', cleaned (s ++ t) = s.filter (!isPassedOver ·) ++ t' ∧ t'.head? = t.head? := by
  refine ⟨((t.reverse.dropWhile isEdge).reverse).filter (!isPassedOver ·), ?_, ?_⟩
  · have hfront : (s ++ t).dropWhile isEdge = s ++ t := by
      refine dropWhile_isEdge fun c hc => hfirst c ?_
      cases s with
      | nil => exact absurd rfl hne
      | cons a s => exact hc
    unfold cleaned
    dsimp only
    rw [hfront, dropWhile_reverse_append hlast, List.filter_append]
  · cases t with
    | nil => rfl
    | cons c t =>
      have hc := ht c rfl
      have htrim := dropWhile_reverse_append (s := [c]) (by simpa using hc) t
      rw [List.singleton_append] at htrim
      rw [htrim]
      simp [isPassedOver_of_isEdge_eq_false hc]

theorem filter_isPassedOver {s : List Char} (h : ∀ c ∈ s, isEdge c = false) :
    s.filter (!isPassedOver ·) = s := by
  rw [List.filter_eq_self]
  intro c hc
  simp [isPassedOver_of_isEdge_eq_false (h c hc)]

/-- No character of an address means anything else in a URL. -/
theorem of_mem_characters {address : SocketAddress} {c : Char} (h : c ∈ address.characters) :
    endsAuthority c = false ∧ isEdge c = false ∧ c ≠ '@' := by
  have halphabet : SocketAddress.alphabet.all
      (fun c => !endsAuthority c && !isEdge c && c != '@') = true := by
    decide +kernel
  have hc := List.all_eq_true.1 halphabet c (address.characters_subset h)
  simpa [and_assoc] using hc

theorem isEdge_of_mem_schemeMark {c : Char} (h : c ∈ schemeMark) : isEdge c = false := by
  simp only [schemeMark, List.mem_cons, List.not_mem_nil, or_false] at h
  rcases h with rfl | rfl | rfl <;> decide

theorem isEdge_of_endsAuthority {c : Char} (h : endsAuthority c = true) : isEdge c = false := by
  simp only [endsAuthority, Bool.or_eq_true, decide_eq_true_eq] at h
  rcases h with (rfl | rfl) | rfl <;> decide

section Address

variable {scheme user rest : List Char} {address : SocketAddress}

/-- What is passed over in a URL with an address stands in the userinfo before the address and in
the rest behind it. -/
theorem cleaned_address (user : List Char) (address : SocketAddress) (hne : scheme ≠ [])
    (hscheme : ∀ c ∈ scheme, c ≠ ':' ∧ isEdge c = false)
    (hrest : ∀ c, rest.head? = some c → endsAuthority c = true) :
    ∃ rest', cleaned (scheme ++ schemeMark ++ (user ++ address.characters) ++ rest) =
        scheme ++ schemeMark ++ (user.filter (!isPassedOver ·) ++ address.characters ++ rest') ∧
      rest'.head? = rest.head? := by
  have hfirst : ∀ c, (scheme ++ schemeMark ++ (user ++ address.characters)).head? = some c →
      isEdge c = false := by
    intro c hc
    cases scheme with
    | nil => exact absurd rfl hne
    | cons a scheme => exact (hscheme c (by simp_all)).2
  have hlast : ∀ c, (scheme ++ schemeMark ++ (user ++ address.characters)).getLast? = some c →
      isEdge c = false := by
    intro c hc
    have hne' : address.characters ≠ [] := by simp [SocketAddress.characters_eq]
    rw [← List.append_assoc, List.getLast?_append, List.getLast?_eq_some_getLast hne'] at hc
    exact (of_mem_characters (Option.some.inj hc ▸ List.getLast_mem hne')).2.1
  obtain ⟨rest', hclean, hhead⟩ := cleaned_append (by simp [hne]) hfirst hlast
    fun c hc => isEdge_of_endsAuthority (hrest c hc)
  refine ⟨rest', ?_, hhead⟩
  rw [hclean, List.filter_append, List.filter_append, List.filter_append,
    filter_isPassedOver fun c hc => (hscheme c hc).2,
    filter_isPassedOver fun _ => isEdge_of_mem_schemeMark,
    filter_isPassedOver fun c hc => (of_mem_characters hc).2.1]
  simp

/-- **A driver finds the address behind the last `@`**, whatever userinfo and rest it stands
between. -/
theorem ofText_of_address (hne : scheme ≠ [])
    (hscheme : ∀ c ∈ scheme, c ≠ ':' ∧ isEdge c = false)
    (huser : user = [] ∨ ∃ w, user = w ++ ['@']) (hends : ∀ c ∈ user, endsAuthority c = false)
    (hrest : ∀ c, rest.head? = some c → endsAuthority c = true)
    (hhost : checkHost address.bracketedHost = .ok ()) :
    ∃ v, ofText (scheme ++ schemeMark ++ (user ++ address.characters) ++ rest) = .ok v ∧
      v.host = some address.bracketedHost ∧ v.port = some address.port := by
  obtain ⟨rest', hcleaned, hhead⟩ := cleaned_address user address hne hscheme hrest
  have hcut := DatabaseUrl.cut_schemeMark
    (DatabaseUrl.not_infix_of_colon fun hc => (hscheme _ hc).1 rfl)
    (user.filter (!isPassedOver ·) ++ address.characters ++ rest')
  have hauthority : (user.filter (!isPassedOver ·) ++ address.characters ++ rest').takeWhile
      (!endsAuthority ·) = user.filter (!isPassedOver ·) ++ address.characters := by
    refine (Text.takeWhile_dropWhile_iff.2 ⟨rfl, ?_, ?_⟩).1
    · intro c hc
      rcases List.mem_append.1 hc with hc | hc
      · simp [hends c (List.mem_filter.1 hc).1]
      · simp [(of_mem_characters hc).1]
    · intro c hc
      simp [hrest c (hhead ▸ hc)]
  have huser' : user.filter (!isPassedOver ·) = [] ∨
      ∃ w, user.filter (!isPassedOver ·) = w ++ ['@'] := by
    rcases huser with rfl | ⟨w, rfl⟩
    · exact Or.inl rfl
    · exact Or.inr ⟨w.filter (!isPassedOver ·), by simp [isPassedOver]⟩
  have hlast : '@' ∉ address.characters := fun hc => (of_mem_characters hc).2.2 rfl
  unfold ofText
  rw [hcleaned]
  simp only [show [':', '/', '/'] = schemeMark from rfl, hcut]
  refine ofRemainder_of_address ?_ hhost
  rw [hauthority]
  exact splitUserinfo_append huser' hlast

end Address

/-! ### Fragments -/

theorem takeWhile_append_cons {α : Type} {p : α → Bool} {b : α} (h : p b = false) (s t : List α) :
    (s ++ b :: t).takeWhile p = s.takeWhile p := by
  rw [List.takeWhile_append]
  split
  · rename_i hall
    rw [List.takeWhile_cons_of_neg (by simp [h]), List.append_nil]
    exact (List.takeWhile_sublist p).eq_of_length hall |>.symm
  · rfl

/-- **What is behind a number sign** is nothing to a driver. -/
theorem ofRemainder_fragment (s t : List Char) :
    ofRemainder (s ++ '#' :: t) = ofRemainder (s ++ ['#']) := by
  have hauthority (t : List Char) : (s ++ '#' :: t).takeWhile (!endsAuthority ·) =
      s.takeWhile (!endsAuthority ·) :=
    takeWhile_append_cons (by decide) s t
  have hbehind (t : List Char) :
      (s ++ '#' :: t).drop (s.takeWhile (!endsAuthority ·)).length =
        s.drop (s.takeWhile (!endsAuthority ·)).length ++ '#' :: t :=
    List.drop_append_of_le_length (List.takeWhile_prefix _).length_le
  have hpath (s t : List Char) : (s ++ '#' :: t).takeWhile (fun c => c ≠ '?' ∧ c ≠ '#') =
      s.takeWhile (fun c => c ≠ '?' ∧ c ≠ '#') :=
    takeWhile_append_cons (by decide) s t
  have hquery (s t : List Char) :
      ((s ++ '#' :: t).drop (s.takeWhile (fun c => c ≠ '?' ∧ c ≠ '#')).length).takeWhile (· ≠ '#') =
        (s.drop (s.takeWhile (fun c => c ≠ '?' ∧ c ≠ '#')).length).takeWhile (· ≠ '#') := by
    rw [List.drop_append_of_le_length (List.takeWhile_prefix _).length_le]
    exact takeWhile_append_cons (by decide) _ t
  have hne (s t : List Char) : s ++ '#' :: t ≠ [] := by simp
  unfold ofRemainder
  simp only [hauthority, hbehind, ← List.append_assoc, hpath, hquery, ne_eq, hne]

/-- An address behind a number sign is not read. -/
theorem ofText_of_fragment {scheme before behind rest : List Char} {address : SocketAddress}
    (hne : scheme ≠ []) (hscheme : ∀ c ∈ scheme, c ≠ ':' ∧ isEdge c = false)
    (hrest : ∀ c, rest.head? = some c → endsAuthority c = true) :
    ofText (scheme ++ schemeMark ++ (before ++ '#' :: behind ++ address.characters) ++ rest) =
      ofRemainder (before.filter (!isPassedOver ·) ++ ['#']) := by
  obtain ⟨rest', hcleaned, -⟩ :=
    cleaned_address (before ++ '#' :: behind) address hne hscheme hrest
  have hsign : isPassedOver '#' = false := by decide
  have huser : (before ++ '#' :: behind).filter (!isPassedOver ·) ++ address.characters ++ rest' =
      before.filter (!isPassedOver ·) ++ '#' ::
        (behind.filter (!isPassedOver ·) ++ address.characters ++ rest') := by
    simp [hsign]
  rw [huser] at hcleaned
  have hcut := DatabaseUrl.cut_schemeMark
    (DatabaseUrl.not_infix_of_colon fun hc => (hscheme _ hc).1 rfl)
    (before.filter (!isPassedOver ·) ++ '#' ::
      (behind.filter (!isPassedOver ·) ++ address.characters ++ rest'))
  unfold ofText
  rw [hcleaned]
  simp only [show [':', '/', '/'] = schemeMark from rfl, hcut]
  exact ofRemainder_fragment _ _

end JumpHost.DriverUrl
