/-
**The values of the fields of a configuration.**

Every field holds a text, an optional text, a number or an engine, and how a value is written in a
document depends on that only.  A value that is written for what a configuration holds in a field
is read into that field and touches no other.

Main definitions:

* `JumpHost.Content`, `JumpHost.Config.content` — what a field holds;
* `JumpHost.Content.Written` — the ways of writing it;
* `JumpHost.Field.implied` — what a field holds that is left out;
* `JumpHost.Config.taking` — a configuration with one field taken from another one.

Main results:

* `JumpHost.Config.ext_content` — a configuration is what its fields hold;
* `JumpHost.Content.Written.derives` — what is written for a field is a value;
* `JumpHost.Reading.scan_atValue_written` — it is read into the field.
-/

import JumpHost.Proofs.Config.Skipping

set_option autoImplicit false

namespace JumpHost

/-! ### What the fields hold -/

/-- What a field holds. -/
inductive Content where
  | text (s : String)
  | optional (s : Option String)
  | natural (n : Nat)
  | engine (e : Option Engine)
  deriving DecidableEq

/-- What a configuration holds in a field. -/
def Config.content (c : Config) : Field → Content
  | .sshUser => .text c.sshUser
  | .sshHost => .text c.sshHost
  | .sshPort => .natural c.sshPort.toNat
  | .password => .optional c.password
  | .privateKeyPath => .optional c.privateKeyPath
  | .passphrase => .optional c.passphrase
  | .engine => .engine c.engine
  | .dbUrl => .text c.dbUrl
  | .ledgerPath => .optional c.ledgerPath
  | .connectTimeout => .natural c.connectTimeout.toNat
  | .keepalive => .natural c.keepalive.toNat

/-- What a field holds that is left out; nothing if it must be given. -/
def Field.implied : Field → Option Content
  | .sshUser => none
  | .sshHost => none
  | .sshPort => some (.natural 22)
  | .password => some (.optional none)
  | .privateKeyPath => some (.optional none)
  | .passphrase => some (.optional none)
  | .engine => some (.engine none)
  | .dbUrl => none
  | .ledgerPath => some (.optional none)
  | .connectTimeout => some (.natural 10)
  | .keepalive => some (.natural 30)

/-- Exactly the fields that must be given have nothing implied. -/
theorem Field.isRequired_iff (f : Field) : f.isRequired = true ↔ f.implied = none := by
  cases f <;> decide

/-- What is implied is what a blank draft holds. -/
theorem Field.implied_eq {f : Field} {x : Content} (h : f.implied = some x) :
    Draft.blank.config.content f = x := by
  cases f <;> cases h <;> rfl

/-- The names under which a document may spell an engine. -/
def Engine.names : Engine → List String
  | postgres => ["postgres", "postgresql"]
  | mysql => ["mysql", "mariadb"]

theorem Engine.ofName?_eq_some_iff {e : Engine} {name : String} :
    Engine.ofName? name = some e ↔ name ∈ e.names := by
  unfold ofName?
  split
  · rename_i h
    obtain rfl | rfl := h <;> cases e <;> simp [names]
  · rename_i hpostgres
    split
    · rename_i h
      obtain rfl | rfl := h <;> cases e <;> simp [names]
    · rename_i hmysql
      cases e <;> simp_all [names]

namespace Config

variable {c d : Config} {f g : Field}

/-- A configuration is what its fields hold. -/
theorem ext_content (h : ∀ f, c.content f = d.content f) : c = d := by
  have number16 := fun {a b : UInt16} (h : Content.natural a.toNat = .natural b.toNat) =>
    UInt16.toNat_inj.1 (Content.natural.inj h)
  have number64 := fun {a b : UInt64} (h : Content.natural a.toNat = .natural b.toNat) =>
    UInt64.toNat_inj.1 (Content.natural.inj h)
  cases c
  cases d
  congr
  · exact Content.text.inj (h .sshUser)
  · exact Content.text.inj (h .sshHost)
  · exact number16 (h .sshPort)
  · exact Content.optional.inj (h .password)
  · exact Content.optional.inj (h .privateKeyPath)
  · exact Content.optional.inj (h .passphrase)
  · exact Content.engine.inj (h .engine)
  · exact Content.text.inj (h .dbUrl)
  · exact Content.optional.inj (h .ledgerPath)
  · exact number64 (h .connectTimeout)
  · exact number64 (h .keepalive)

/-- Every number of a configuration has 64 bits. -/
theorem content_natural_le {n : Nat} (h : c.content f = .natural n) :
    n ≤ Json.Numeral.significandLimit := by
  have limit : Json.Numeral.significandLimit = 2 ^ 64 - 1 := rfl
  have port : c.sshPort.toNat < 2 ^ 16 := c.sshPort.toNat_lt
  have timeout : c.connectTimeout.toNat < 2 ^ 64 := c.connectTimeout.toNat_lt
  have keepalive : c.keepalive.toNat < 2 ^ 64 := c.keepalive.toNat_lt
  cases f <;> simp only [content, Content.natural.injEq, reduceCtorEq] at h <;> omega

/-- The configuration `d` with one field taken from `c`. -/
def taking (d c : Config) : Field → Config
  | .sshUser => { d with sshUser := c.sshUser }
  | .sshHost => { d with sshHost := c.sshHost }
  | .sshPort => { d with sshPort := c.sshPort }
  | .password => { d with password := c.password }
  | .privateKeyPath => { d with privateKeyPath := c.privateKeyPath }
  | .passphrase => { d with passphrase := c.passphrase }
  | .engine => { d with engine := c.engine }
  | .dbUrl => { d with dbUrl := c.dbUrl }
  | .ledgerPath => { d with ledgerPath := c.ledgerPath }
  | .connectTimeout => { d with connectTimeout := c.connectTimeout }
  | .keepalive => { d with keepalive := c.keepalive }

@[simp] theorem content_taking_self (d c : Config) (f : Field) :
    (d.taking c f).content f = c.content f := by
  cases f <;> rfl

theorem content_taking_of_ne (d c : Config) (h : g ≠ f) :
    (d.taking c f).content g = d.content g := by
  cases f <;> cases g <;> first | rfl | exact absurd rfl h

end Config

/-! ### Writing it -/

/-- The tokens that spell what a field holds. -/
inductive Content.Spelled : Content → Json.Token → Prop
  | text (s : String) : Spelled (.text s) (.text (some s.toList))
  | unset : Spelled (.optional none) .null
  | set (s : String) : Spelled (.optional (some s)) (.text (some s.toList))
  | natural (n : Nat) : Spelled (.natural n) (.number (some (.natural n)))
  | noEngine : Spelled (.engine none) .null
  | engine {e : Engine} {name : String} (h : name ∈ e.names) :
      Spelled (.engine (some e)) (.text (some name.toList))

/-- The ways of writing what a field holds: a text with any escapes, the digits of a number, an
engine by any of its names, and the word for nothing for what is not set. -/
inductive Content.Written : Content → List Char → Prop
  | text {s : String} {b : List Char} (h : Json.TextBody s.toList b) :
      Written (.text s) (Json.inQuotes b)
  | unset : Written (.optional none) Json.nullWord
  | set {s : String} {b : List Char} (h : Json.TextBody s.toList b) :
      Written (.optional (some s)) (Json.inQuotes b)
  | natural (n : Nat) : Written (.natural n) (Text.numeral n)
  | noEngine : Written (.engine none) Json.nullWord
  | engine {e : Engine} {name : String} {b : List Char} (he : name ∈ e.names)
      (h : Json.TextBody name.toList b) : Written (.engine (some e)) (Json.inQuotes b)

theorem Content.Written.derives {x : Content} {v : List Char} (h : x.Written v) :
    Json.Derives .value v := by
  cases h with
  | text h => exact .text h.isBody
  | unset => exact .null
  | set h => exact .text h.isBody
  | natural n => exact .number (Json.isNumber_numeral n)
  | noEngine => exact .null
  | engine _ h => exact .text h.isBody

/-- What is written for a field is one token that spells it. -/
theorem Content.Written.tokens {c : Config} {f : Field} {v rest : List Char}
    (h : (c.content f).Written v) (hrest : Json.Ends rest) :
    ∃ t, (c.content f).Spelled t ∧ Json.tokens (v ++ rest) = t :: Json.tokens rest := by
  generalize hx : c.content f = x at h
  cases h with
  | text h => exact ⟨_, .text _, Json.tokens_textBody h rest⟩
  | unset => exact ⟨_, .unset, Json.tokens_nullWord rest⟩
  | set h => exact ⟨_, .set _, Json.tokens_textBody h rest⟩
  | natural n => exact ⟨_, .natural n, Json.tokens_numeral (Config.content_natural_le hx) hrest⟩
  | noEngine => exact ⟨_, .noEngine, Json.tokens_nullWord rest⟩
  | engine he h => exact ⟨_, .engine he, Json.tokens_textBody h rest⟩

namespace Content.Spelled

open Json

variable {t : Token}

theorem isScalar {x : Content} (h : x.Spelled t) : t.isScalar = true := by
  cases h <;> rfl

theorem text? {s : String} (h : (Content.text s).Spelled t) (expected : String) :
    t.text? expected = .ok s := by
  cases h
  simp [Token.text?]

theorem orNull? {x : Option String} (h : (Content.optional x).Spelled t) (expected : String) :
    t.orNull? (Token.text? expected) = .ok x := by
  cases h with
  | unset => rfl
  | set s => simp [Token.orNull?, Token.text?, Except.map]

theorem natural? {n limit : Nat} (h : (Content.natural n).Spelled t) (expected : String)
    (hn : n ≤ limit) : t.natural? expected limit = .ok n := by
  cases h
  simp [Token.natural?, hn]

theorem stepValue_engine {x : Option Engine} (h : (Content.engine x).Spelled t) (d : Draft)
    (layout : Layout) : Reading.stepValue d layout .engine t =
      .ok (.afterValue { d with config := { d.config with engine := x } } layout) := by
  cases h with
  | noEngine => rfl
  | engine he =>
    simp [Reading.stepValue, Reading.stepEngine, EngineSpelling.step, EngineSpelling.named,
      Engine.ofName?_eq_some_iff.2 he, Except.map]

end Content.Spelled

namespace Reading

open Json

variable {c : Config} {f : Field} {v rest : List Char} {t : Token}

/-! ### Reading it -/

/-- The token that spells what a field holds is taken into that field. -/
theorem stepValue_of_spelled (d : Draft) (layout : Layout) (h : (c.content f).Spelled t) :
    stepValue d layout f t =
      .ok (.afterValue { d with config := d.config.taking c f } layout) := by
  have port : c.sshPort.toNat ≤ UInt16.size - 1 := Nat.le_sub_one_of_lt c.sshPort.toNat_lt
  have timeout : c.connectTimeout.toNat ≤ UInt64.size - 1 :=
    Nat.le_sub_one_of_lt c.connectTimeout.toNat_lt
  have keepalive : c.keepalive.toNat ≤ UInt64.size - 1 :=
    Nat.le_sub_one_of_lt c.keepalive.toNat_lt
  cases f <;> simp only [Config.content] at h
  case engine => exact h.stepValue_engine d layout
  case sshPort =>
    simp only [stepValue, h.natural? _ port, Config.taking, Except.map, UInt16.ofNat_toNat]
  case connectTimeout =>
    simp only [stepValue, h.natural? _ timeout, Config.taking, Except.map, UInt64.ofNat_toNat]
  case keepalive =>
    simp only [stepValue, h.natural? _ keepalive, Config.taking, Except.map, UInt64.ofNat_toNat]
  case sshUser | sshHost | dbUrl => simp only [stepValue, h.text?, Config.taking, Except.map]
  case password | privateKeyPath | passphrase | ledgerPath =>
    simp only [stepValue, h.orNull?, Config.taking, Except.map]

/-- **A value that is written for a field is read into it.** -/
theorem scan_atValue_written (d : Draft) (layout : Layout) (h : (c.content f).Written v)
    (hrest : Ends rest) : (atValue d layout f).scan (v ++ rest) =
      (afterValue { d with config := d.config.taking c f } layout).scan rest := by
  obtain ⟨t, ht, htokens⟩ := h.tokens hrest
  exact scan_of_step htokens (stepValue_of_spelled d layout ht)

/-- A scalar does not close an array, so it is taken as the value of the next field. -/
theorem step_atElement_of_isScalar (isFirst : Bool) (d : Draft) (f : Field)
    (remaining : List Field) (h : t.isScalar = true) :
    step (.atElement isFirst d (f :: remaining)) t = stepValue d (.array remaining) f t := by
  cases t <;> first | cases isFirst <;> rfl | cases h

/-- So is an element of an array, which is written for the next field. -/
theorem scan_atElement_written (isFirst : Bool) (d : Draft) (remaining : List Field)
    (h : (c.content f).Written v) (hrest : Ends rest) :
    (atElement isFirst d (f :: remaining)).scan (v ++ rest) =
      (afterValue { d with config := d.config.taking c f } (.array remaining)).scan rest := by
  obtain ⟨t, ht, htokens⟩ := h.tokens hrest
  refine scan_of_step htokens ?_
  rw [step_atElement_of_isScalar isFirst d f remaining ht.isScalar]
  exact stepValue_of_spelled d (.array remaining) ht

end Reading

end JumpHost
