import Mathlib.Algebra.Group.Nat.Defs
import Rolebook.Proofs.Fallible
import Rolebook.Proofs.Text.Blank
import Rolebook.Settings.Basic

/-!
# What makes settings usable

`Settings.Reads` says what settings a lookup stands for, by what is given under each name: white
space around a value is no part of it, and there is something else for a name that has no value or a
blank one. The reader finds just these settings (`read_eq_ok_iff`), so it succeeds when each of the
four values that may be wrong is right by itself (`exists_read_iff`). All that it sees of a lookup
is what is left of the values by trimming, and this is the same however they are spaced
(`value_respaced`).
-/

namespace Rolebook

/-! ## Numbers -/

namespace Text.Unsigned

/-- Digits that spell a number. -/
structure Digits (n : Nat) (cs : List Char) : Prop where
  nonempty : cs ≠ []
  digits : ∀ c ∈ cs, isDigit c = true
  value : decimalValue 0 cs = n

/-- The digits of a number, with a plus sign before them or not. -/
inductive Numeral (n : Nat) : List Char → Prop where
  | plain {cs : List Char} (h : Digits n cs) : Numeral n cs
  | signed {cs : List Char} (h : Digits n cs) : Numeral n ('+' :: cs)

variable {limit n : Nat} {cs : List Char}

/-- Digits are read as the number they spell, if it is within the limit. -/
theorem readDigits_iff (hne : cs ≠ []) :
    readDigits limit 0 cs = .ok n ↔ Digits n cs ∧ n ≤ limit := by
  rw [readDigits_eq_ok_iff limit 0 n cs (Nat.zero_le limit), List.all_eq_true]
  exact ⟨fun ⟨hdigits, hvalue, hle⟩ => ⟨⟨hne, hdigits, hvalue⟩, hle⟩,
    fun ⟨h, hle⟩ => ⟨h.digits, h.value, hle⟩⟩

/-- A sign is no digit. -/
theorem not_digits_signed : ¬ Digits n ('+' :: cs) := fun h =>
  absurd (h.digits '+' (List.mem_cons_self ..)) (by decide)

/-- A text is read as the number that it is a numeral of, up to the limit. -/
theorem read_eq_ok_iff : read limit cs = .ok n ↔ Numeral n cs ∧ n ≤ limit := by
  unfold read
  split
  next =>
    refine ⟨nofun, fun ⟨h, _⟩ => ?_⟩
    cases h with
    | plain h => exact absurd rfl h.nonempty
  next c cs =>
    rw [readDigits_iff (List.cons_ne_nil c cs)]
    refine and_congr_left fun _ => ⟨.signed, fun h => ?_⟩
    cases h with
    | plain h => exact absurd h not_digits_signed
    | signed h => exact h
  next cs hempty hsigned =>
    rw [readDigits_iff hempty]
    refine and_congr_left fun _ => ⟨.plain, fun h => ?_⟩
    cases h with
    | plain h => exact h
    | @signed cs h =>
      -- what stands after the sign is not empty, so the case before applied
      obtain ⟨c, cs, rfl⟩ := List.exists_cons_of_ne_nil h.nonempty
      exact absurd rfl (hsigned c cs)

end Text.Unsigned

namespace Settings

open Text (AllBlank Tight)

/-! ## What a lookup gives -/

/-- How a value may be replaced without its being another: by itself with white space around it, or
by nothing if there is nothing but white space in it. -/
inductive Respaced : Option String → Option String → Prop where
  | same (value : Option String) : Respaced value value
  | padded {before after : String} (value : String) (hbefore : AllBlank before)
      (hafter : AllBlank after) : Respaced (some value) (some (before ++ value ++ after))
  | removed {value : String} (h : AllBlank value) : Respaced (some value) none

/-- A text is given for a name, with any white space around it. -/
def Given (lookup : Lookup) (name text : String) : Prop :=
  (text ≠ "" ∧ Tight text) ∧
    ∃ before after, AllBlank before ∧ AllBlank after ∧ lookup name = some (before ++ text ++ after)

/-- What comes of a name: it `reads` the text that is given for it, or there is none and `missing`
says what stands in for it. -/
inductive Found {α : Type} (lookup : Lookup) (name : String) (reads : String → α → Prop)
    (missing : α → Prop) (a : α) : Prop where
  | given {text : String} (h : Given lookup name text) (hread : reads text a)
  | missing (h : ∀ text, ¬ Given lookup name text) (hmissing : missing a)

variable {α : Type} {lookup lookup' : Lookup} {name text : String}

/-- White space around a value, or nothing but white space, makes no difference to what is kept of
it. -/
theorem ofOption_respaced {o o' : Option String} (h : Respaced o o') :
    NonBlank.ofOption o' = NonBlank.ofOption o := by
  cases h with
  | same => rfl
  | padded value hbefore hafter =>
    simp only [NonBlank.ofOption, Option.bind_some, NonBlank.ofText?,
      Text.trim_padded hbefore hafter]
  | removed h =>
    rw [NonBlank.ofOption, NonBlank.ofOption, Option.bind_none, Option.bind_some]
    exact ((NonBlank.ofText?_eq_none_iff _).mpr (Text.trim_eq_empty_iff.mpr h)).symm

/-- The values that are read are the same however they are spaced. -/
theorem value_respaced (h : ∀ name, Respaced (lookup name) (lookup' name)) :
    value lookup' = value lookup :=
  funext fun name => ofOption_respaced (h name)

/-- A value is given where one is kept. -/
theorem given_iff : Given lookup name text ↔ ∃ v, value lookup name = some v ∧ v.text = text := by
  rw [value]
  constructor
  · rintro ⟨⟨hne, htight⟩, before, after, hbefore, hafter, hlookup⟩
    have htrim : Text.trim (before ++ text ++ after) = text := by
      rw [Text.trim_padded hbefore hafter, Text.trim_eq_self_iff.mpr htight]
    rw [hlookup, NonBlank.ofOption, Option.bind_some]
    cases hread : NonBlank.ofText? (before ++ text ++ after) with
    | none => exact absurd (htrim.symm.trans ((NonBlank.ofText?_eq_none_iff _).mp hread)) hne
    | some v => exact ⟨v, rfl, (NonBlank.text_of_ofText? hread).trans htrim⟩
  · rintro ⟨v, hvalue, rfl⟩
    obtain ⟨s, hlookup, hread⟩ := Option.bind_eq_some_iff.mp hvalue
    obtain ⟨before, after, hbefore, hafter, hs⟩ := Text.exists_padding s
    rw [← NonBlank.text_of_ofText? hread] at hs
    exact ⟨⟨v.ne_empty, Text.trim_eq_self_iff.mp v.trimmed⟩, before, after, hbefore, hafter,
      hlookup.trans (congrArg some hs)⟩

/-- What is found depends on whether a value is given, and then on its text. -/
theorem found_iff {reads : String → α → Prop} {missing : α → Prop} {a : α} :
    Found lookup name reads missing a ↔
      (value lookup name).elim (missing a) fun v => reads v.text a := by
  cases hvalue : value lookup name with
  | none =>
    have hnot : ∀ text, ¬ Given lookup name text := fun text h => by
      obtain ⟨v, hv, -⟩ := given_iff.mp h
      cases hvalue.symm.trans hv
    refine ⟨fun h => ?_, fun h => .missing hnot h⟩
    cases h with
    | given h _ => exact absurd h (hnot _)
    | missing _ hmissing => exact hmissing
  | some v =>
    have hgiven : Given lookup name v.text := given_iff.mpr ⟨v, hvalue, rfl⟩
    refine ⟨fun h => ?_, fun h => .given hgiven h⟩
    cases h with
    | given h hread =>
      obtain ⟨w, hw, rfl⟩ := given_iff.mp h
      cases hvalue.symm.trans hw
      exact hread
    | missing h _ => exact absurd hgiven (h _)

/-! ## What may be given -/

/-- A text is a URL of the web. -/
def IsBaseUrl (text : String) (url : Url) : Prop :=
  Url.read text = .ok url ∧ (url.scheme = "http" ∨ url.scheme = "https")

/-- A text is the id of a tenant. -/
def IsTenant (text : String) (tenant : Option TenantId) : Prop :=
  ∃ a, Id.read text = .ok a ∧ tenant = some a

/-- A text is a number that may be a limit. -/
def IsLimit (text : String) (n : Nat) : Prop :=
  Text.Unsigned.Numeral n text.toList ∧ 1 ≤ n ∧ n ≤ 2 ^ 64 - 1

/-- The settings that a lookup stands for. -/
structure Reads (lookup : Lookup) (s : Settings) : Prop where
  baseUrl : Found lookup baseUrlName IsBaseUrl (IsBaseUrl usualBaseUrl) s.baseUrl
  token : Found lookup tokenName (fun text token => token.map (·.text) = some text) (· = none) s.token
  tenant : Found lookup tenantName IsTenant (· = none) s.tenant
  timeout : Found lookup timeoutName IsLimit (· = 10000) s.limits.timeout
  concurrency : Found lookup concurrencyName IsLimit (· = 8) s.limits.concurrency

/-- Each of the values that may be wrong is right. -/
structure Usable (lookup : Lookup) : Prop where
  baseUrl : ∃ url, Found lookup baseUrlName IsBaseUrl (IsBaseUrl usualBaseUrl) url
  tenant : ∃ tenant, Found lookup tenantName IsTenant (· = none) tenant
  timeout : ∃ n, Found lookup timeoutName IsLimit (· = 10000) n
  concurrency : ∃ n, Found lookup concurrencyName IsLimit (· = 8) n

/-- A base URL is one of the web. -/
theorem readBaseUrl_eq_ok_iff {url : Url} : readBaseUrl text = .ok url ↔ IsBaseUrl text url := by
  unfold readBaseUrl IsBaseUrl
  cases Url.read text with
  | error malformed => exact ⟨nofun, fun ⟨h, _⟩ => nomatch h⟩
  | ok url' =>
    show (if url'.isWeb = true then Except.ok url' else _) = Except.ok url ↔ _
    rw [Except.ok.injEq]
    split
    next hweb =>
      have hscheme : url'.scheme = "http" ∨ url'.scheme = "https" := by
        simpa [Url.isWeb] using hweb
      rw [Except.ok.injEq]
      exact ⟨fun h => ⟨h, h ▸ hscheme⟩, And.left⟩
    next hweb =>
      refine ⟨nofun, fun ⟨h, hscheme⟩ => absurd ?_ hweb⟩
      rw [h]
      simpa [Url.isWeb] using hscheme

/-- Without a base URL, the usual one counts. -/
theorem found_baseUrl_iff {url : Url} :
    readBaseUrl ((value lookup baseUrlName).elim usualBaseUrl (·.text)) = .ok url ↔
      Found lookup baseUrlName IsBaseUrl (IsBaseUrl usualBaseUrl) url := by
  rw [found_iff, readBaseUrl_eq_ok_iff]
  cases value lookup baseUrlName <;> rfl

/-- A token may be any text, or missing. -/
theorem found_token_iff {token : Option NonBlank} : token = value lookup tokenName ↔
    Found lookup tokenName (fun text token => token.map (·.text) = some text) (· = none) token := by
  rw [found_iff]
  cases value lookup tokenName with
  | none => exact Iff.rfl
  | some v =>
    show token = some v ↔ token.map (·.text) = some v.text
    rw [Option.map_eq_some_iff]
    exact ⟨fun h => ⟨v, h, rfl⟩, fun ⟨w, hw, h⟩ => NonBlank.ext h ▸ hw⟩

/-- A tenant is an id, or missing. -/
theorem found_tenant_iff {tenant : Option TenantId} :
    readTenant (value lookup tenantName) = .ok tenant ↔
      Found lookup tenantName IsTenant (· = none) tenant := by
  rw [found_iff]
  cases value lookup tenantName with
  | none => exact (Except.ok.injEq ..).to_iff.trans eq_comm
  | some v =>
    rw [readTenant, map_eq_ok_iff]
    exact exists_congr fun a => and_congr_right fun _ => eq_comm

/-- A limit is read as any number, and is one if it is not zero. -/
theorem found_limit_iff {usual n : Nat} (husual : 0 < usual) :
    readLimit name usual (value lookup name) = .ok n ∧ 0 < n ↔
      Found lookup name IsLimit (· = usual) n := by
  rw [found_iff]
  cases value lookup name with
  | none =>
    constructor
    · rintro ⟨h, -⟩
      exact (Except.ok.inj h).symm
    · rintro rfl
      exact ⟨rfl, husual⟩
  | some v =>
    have hread : readLimit name usual (some v) = .ok n ↔
        Text.Unsigned.read largestLimit v.text.toList = .ok n := by
      rw [readLimit]
      cases Text.Unsigned.read largestLimit v.text.toList with
      | error => exact ⟨nofun, nofun⟩
      | ok => exact (Except.ok.injEq ..).to_iff.trans (Except.ok.injEq ..).to_iff.symm
    rw [hread, Text.Unsigned.read_eq_ok_iff, and_assoc, and_comm (b := 0 < n)]
    exact Iff.rfl

/-! ## The reader -/

/-- Lookups that keep the same values make the same settings. -/
theorem read_congr (h : value lookup' = value lookup) : read lookup' = read lookup := by
  unfold read
  rw [h]

/-- The settings that are read are those that the lookup stands for. -/
theorem read_eq_ok_iff {s : Settings} : read lookup = .ok s ↔ Reads lookup s := by
  constructor
  · intro h
    obtain ⟨baseUrl, hbase, h⟩ := bind_eq_ok_iff.mp h
    obtain ⟨tenant, htenant, h⟩ := bind_eq_ok_iff.mp h
    obtain ⟨timeout, htimeout, h⟩ := bind_eq_ok_iff.mp h
    obtain ⟨concurrency, hconcurrency, h⟩ := bind_eq_ok_iff.mp h
    split at h
    next ht =>
      split at h
      next hc =>
        cases h
        exact {
          baseUrl := found_baseUrl_iff.mp hbase
          token := found_token_iff.mp rfl
          tenant := found_tenant_iff.mp htenant
          timeout := (found_limit_iff (by decide)).mp ⟨htimeout, ht⟩
          concurrency := (found_limit_iff (by decide)).mp ⟨hconcurrency, hc⟩ }
      next => cases h
    next => cases h
  · intro h
    obtain ⟨baseUrl, token, tenant, ⟨timeout, concurrency⟩, ht, hc⟩ := s
    have hbase := found_baseUrl_iff.mpr h.baseUrl
    have htoken := found_token_iff.mpr h.token
    have htenant := found_tenant_iff.mpr h.tenant
    have htimeout := ((found_limit_iff (by decide)).mpr h.timeout).1
    have hconcurrency := ((found_limit_iff (by decide)).mpr h.concurrency).1
    subst htoken
    unfold read
    rw [hbase, htenant, htimeout, hconcurrency]
    show (if ht : 0 < timeout then (if hc : 0 < concurrency then _ else _ : Except _ _) else _) = _
    rw [dif_pos ht, dif_pos hc]
    rfl

/-- There are settings to be read when each value that may be wrong is right, whatever the others.
-/
theorem exists_read_iff : (∃ s, read lookup = .ok s) ↔ Usable lookup := by
  constructor
  · rintro ⟨s, hs⟩
    have h := read_eq_ok_iff.mp hs
    exact ⟨⟨_, h.baseUrl⟩, ⟨_, h.tenant⟩, ⟨_, h.timeout⟩, ⟨_, h.concurrency⟩⟩
  · rintro ⟨⟨baseUrl, hbase⟩, ⟨tenant, htenant⟩, ⟨timeout, htimeout⟩, ⟨concurrency, hconcurrency⟩⟩
    have ht : 0 < timeout := ((found_limit_iff (by decide)).mpr htimeout).2
    have hc : 0 < concurrency := ((found_limit_iff (by decide)).mpr hconcurrency).2
    exact ⟨⟨baseUrl, value lookup tokenName, tenant, ⟨timeout, concurrency⟩, ht, hc⟩,
      read_eq_ok_iff.mpr ⟨hbase, found_token_iff.mp rfl, htenant, htimeout, hconcurrency⟩⟩

/-- However values are spaced, and whether blank ones are left out or not, the same settings are
read, or the same fault is found. Settings are read if the base URL is one of the web, the tenant an
id and each limit a number from 1 to the largest one of 64 bits, as far as they are given, and their
limits are applied as they are. -/
theorem read_respaced_and_usable (hspaced : ∀ name, Respaced (lookup name) (lookup' name)) :
    read lookup' = read lookup ∧
    ((∃ s, read lookup = .ok s) ↔ Usable lookup) ∧
    (∀ s, read lookup = .ok s ↔ Reads lookup s) ∧
    (∀ s, read lookup = .ok s → s.limits.effective = s.limits) :=
  ⟨read_congr (value_respaced hspaced), exists_read_iff, fun _ => read_eq_ok_iff,
    fun s _ => effective_limits s⟩

/-- A limit and a blank tenant. -/
def plainLookup : Lookup := fun name =>
  if name = timeoutName then some "250" else if name = tenantName then some " " else none

/-- The limit with white space around it, and no tenant. -/
def spacedLookup : Lookup := fun name =>
  if name = timeoutName then some (" " ++ "250" ++ "\n") else none

theorem respaced_spacedLookup (name : String) :
    Respaced (plainLookup name) (spacedLookup name) := by
  unfold plainLookup spacedLookup
  split
  next => exact .padded "250" (by decide +kernel) (by decide +kernel)
  next =>
    split
    next => exact .removed (by decide +kernel)
    next => exact .same none

theorem read_respaced_and_usable_limit :
    (∀ name, Respaced (plainLookup name) (spacedLookup name)) ∧
    read spacedLookup = read plainLookup ∧ Usable plainLookup := by
  have hread := read_respaced_and_usable respaced_spacedLookup
  have hok : ∃ s, read plainLookup = .ok s := by
    have hisOk : (read plainLookup).isOk = true := by decide +kernel
    cases h : read plainLookup with
    | ok s => exact ⟨s, rfl⟩
    | error fault => rw [h] at hisOk; cases hisOk
  exact ⟨respaced_spacedLookup, hread.1, hread.2.1.mp hok⟩

end Settings

end Rolebook
