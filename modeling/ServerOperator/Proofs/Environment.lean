import Mathlib.Data.Nat.Digits.Defs
import Mathlib.Data.UInt
import ServerOperator.Controller.Run
import ServerOperator.Proofs.Decoding

/-!
# Settings from any environment

The texts in the environment may be anything. They are read as numbers exactly if they are written in
decimal notation and small enough, and the first one that is not is reported. What was read is then
made usable: no count and no delay is zero and no namespace is blank. A controller takes over such
settings unchanged, and allows for at least one pass at once, and for no more than it can count.
-/

namespace ServerOperator

/-- The text is the number in decimal notation: its digits, the most significant one first, with
zeros and then a plus sign before them at will. -/
def Denotes (text : String) (number : Nat) : Prop :=
  ∃ digits : List Nat, digits ≠ [] ∧ (∀ digit ∈ digits, digit < 10) ∧
    (text.toList = digits.map Nat.digitChar ∨ text.toList = '+' :: digits.map Nat.digitChar) ∧
    number = Nat.ofDigits 10 digits.reverse

/-! ### Digits -/

theorem digitChar_eq_ofNat {digit : Nat} (hdigit : digit < 10) :
    digit.digitChar = Char.ofNat (digit + 48) := by
  revert digit
  decide

theorem digitChar_ne_plus {digit : Nat} (hdigit : digit < 10) : digit.digitChar ≠ '+' := by
  revert digit
  decide

/-- The digit that a character stands for. -/
def digitValue (character : Char) : Nat :=
  character.toNat - 48

theorem digitValue_digitChar {digit : Nat} (hdigit : digit < 10) :
    digitValue digit.digitChar = digit := by
  revert digit
  decide

theorem digitChar_digitValue {character : Char} (hdigit : character.isDigit = true) :
    digitValue character < 10 ∧ (digitValue character).digitChar = character := by
  obtain ⟨hlow, hhigh⟩ : 48 ≤ character.toNat ∧ character.toNat ≤ 57 := by
    simpa [Char.isDigit, UInt32.le_iff_toNat_le] using hdigit
  have hvalue : digitValue character + 48 = character.toNat := Nat.sub_add_cancel hlow
  have hsmall : digitValue character < 10 := by omega
  refine ⟨hsmall, ?_⟩
  rw [digitChar_eq_ofNat hsmall, hvalue, Char.ofNat_toNat]

theorem map_map_of_cancel {there : α → β} {back : β → α} {items : List α}
    (hcancel : ∀ item ∈ items, back (there item) = item) :
    (items.map there).map back = items := by
  rw [List.map_map]
  calc items.map (back ∘ there)
      = items.map id := List.map_congr_left hcancel
    _ = items := List.map_id items

/-- Going through the characters from the left comes to positional notation. -/
theorem foldl_digits (characters : List Char) :
    characters.foldl (fun value digit => value * 10 + (digit.toNat - 48)) 0 =
      Nat.ofDigits 10 (characters.map digitValue).reverse := by
  rw [Nat.ofDigits_eq_foldr, List.foldr_reverse, List.foldl_map]
  congr 1
  funext value digit
  change value * 10 + digitValue digit = digitValue digit + 10 * value
  omega

/-! ### Numbers as text -/

/-- The characters after the plus sign, if there is one. -/
def unsigned (text : String) : List Char :=
  match text.toList with
  | '+' :: rest => rest
  | characters => characters

theorem toList_eq_unsigned (text : String) :
    text.toList = unsigned text ∨ text.toList = '+' :: unsigned text := by
  unfold unsigned
  split
  · rename_i rest htext
    exact .inr htext
  · exact .inl rfl

theorem unsigned_of_digits {text : String} {digits : List Nat}
    (hdigits : ∀ digit ∈ digits, digit < 10)
    (htext : text.toList = digits.map Nat.digitChar ∨
      text.toList = '+' :: digits.map Nat.digitChar) :
    unsigned text = digits.map Nat.digitChar := by
  unfold unsigned
  rcases htext with htext | htext
  · rw [htext]
    split
    · -- A digit is no plus sign.
      rename_i rest hplus
      obtain ⟨first, others, rfl, hfirst, -⟩ := List.map_eq_cons_iff.mp hplus
      exact absurd hfirst (digitChar_ne_plus (hdigits first List.mem_cons_self))
    · rfl
  · rw [htext]
    rfl

theorem denotes_iff {text : String} {number : Nat} :
    Denotes text number ↔
      (unsigned text ≠ [] ∧ (unsigned text).all Char.isDigit = true) ∧
        number = Nat.ofDigits 10 ((unsigned text).map digitValue).reverse := by
  constructor
  · rintro ⟨digits, hsome, hdigits, htext, rfl⟩
    have hvalues : (digits.map Nat.digitChar).map digitValue = digits :=
      map_map_of_cancel fun digit hmem => digitValue_digitChar (hdigits digit hmem)
    rw [unsigned_of_digits hdigits htext, hvalues]
    refine ⟨⟨by simpa using hsome, ?_⟩, rfl⟩
    rw [List.all_map, List.all_eq_true]
    intro digit hmem
    simpa [Nat.isDigit_digitChar] using hdigits digit hmem
  · rintro ⟨⟨hsome, hdigits⟩, rfl⟩
    rw [List.all_eq_true] at hdigits
    have hcharacters : ((unsigned text).map digitValue).map Nat.digitChar = unsigned text :=
      map_map_of_cancel fun character hmem => (digitChar_digitValue (hdigits character hmem)).2
    refine ⟨(unsigned text).map digitValue, by simpa using hsome, ?_, ?_, rfl⟩
    · rw [List.forall_mem_map]
      exact fun character hmem => (digitChar_digitValue (hdigits character hmem)).1
    · rw [hcharacters]
      exact toList_eq_unsigned text

theorem wholeNumber?_eq_some_iff {bound : Nat} {text : String} {number : Nat} :
    wholeNumber? bound text = some number ↔ Denotes text number ∧ number < bound := by
  change (if unsigned text ≠ [] ∧ (unsigned text).all Char.isDigit = true then
      let value := (unsigned text).foldl (fun value digit => value * 10 + (digit.toNat - 48)) 0
      if value < bound then some value else none
    else none) = some number ↔ _
  rw [denotes_iff, foldl_digits]
  constructor
  · intro hread
    split at hread
    · rename_i hdigits
      dsimp only at hread
      split at hread
      · rename_i hbound
        obtain rfl := Option.some.inj hread
        exact ⟨⟨hdigits, rfl⟩, hbound⟩
      · cases hread
    · cases hread
  · rintro ⟨⟨hdigits, rfl⟩, hbound⟩
    rw [if_pos hdigits]
    exact if_pos hbound

/-! ### What a variable gives -/

/-- Machine words as the numbers below a bound. -/
structure Represents (bound : Nat) (convert : Nat → α) (number : α → Nat) : Prop where
  number_lt : ∀ word, number word < bound
  number_convert : ∀ value < bound, number (convert value) = value
  convert_number : ∀ word, convert (number word) = word

theorem represents_uint16 : Represents UInt16.size UInt16.ofNat UInt16.toNat :=
  ⟨UInt16.toNat_lt_size, fun _ => UInt16.toNat_ofNat_of_lt', fun _ => UInt16.ofNat_toNat⟩

theorem represents_uint64 : Represents UInt64.size UInt64.ofNat UInt64.toNat :=
  ⟨UInt64.toNat_lt_size, fun _ => UInt64.toNat_ofNat_of_lt', fun _ => UInt64.ofNat_toNat⟩

namespace Settings

variable {environment : Environment}

/-- A variable gives the number that it is set to, or the standard one if it is not set. -/
def Gives (environment : Environment) (name : String) (standard number : Nat) : Prop :=
  match environment.lookup name with
  | none => number = standard
  | some text => Denotes text number

structure NumberVariable where
  name : String
  bound : Nat

/-- The variables that hold numbers, in the order in which they are declared. -/
def numberVariables : List NumberVariable :=
  [⟨"HTTP_PORT", UInt16.size⟩, ⟨"MCP_OPERATOR_WORKERS", UInt64.size⟩,
    ⟨"MCP_OPERATOR_ERROR_REQUEUE_SECS", UInt64.size⟩]

/-- If the variable is set, then to a number that is small enough. -/
def Readable (environment : Environment) (entry : NumberVariable) : Prop :=
  ∀ text, environment.lookup entry.name = some text → ∃ number < entry.bound, Denotes text number

section

variable {name : String} {bound : Nat} {convert : Nat → α} {number : α → Nat} {otherwise word : α}

theorem numberSetting_of_unset (hunset : environment.lookup name = none) :
    numberSetting environment name bound convert otherwise = .ok otherwise := by
  simp only [numberSetting, hunset]

theorem numberSetting_of_number {text : String} {value : Nat}
    (hset : environment.lookup name = some text) (hvalue : wholeNumber? bound text = some value) :
    numberSetting environment name bound convert otherwise = .ok (convert value) := by
  simp only [numberSetting, hset, hvalue]

theorem numberSetting_of_fault {text : String} (hset : environment.lookup name = some text)
    (hvalue : wholeNumber? bound text = none) :
    numberSetting environment name bound convert otherwise = .error ⟨name⟩ := by
  simp only [numberSetting, hset, hvalue]

theorem numberSetting_eq_ok_iff (hwords : Represents bound convert number) :
    numberSetting environment name bound convert otherwise = .ok word ↔
      Gives environment name (number otherwise) (number word) := by
  unfold Gives
  cases hlookup : environment.lookup name with
  | none =>
      rw [numberSetting_of_unset hlookup, Except.ok.injEq]
      refine ⟨fun hword => congrArg number hword.symm, fun hnumber => ?_⟩
      rw [← hwords.convert_number otherwise, ← hnumber, hwords.convert_number]
  | some text =>
      constructor
      · intro hread
        cases hvalue : wholeNumber? bound text with
        | none => cases (numberSetting_of_fault hlookup hvalue).symm.trans hread
        | some value =>
            obtain rfl := Except.ok.inj ((numberSetting_of_number hlookup hvalue).symm.trans hread)
            obtain ⟨hdenotes, hbound⟩ := wholeNumber?_eq_some_iff.mp hvalue
            rwa [hwords.number_convert value hbound]
      · intro hdenotes
        have hvalue := wholeNumber?_eq_some_iff.mpr ⟨hdenotes, hwords.number_lt word⟩
        rw [numberSetting_of_number hlookup hvalue, hwords.convert_number]

theorem numberSetting_of_readable (convert : Nat → α) (otherwise : α)
    (hreadable : Readable environment ⟨name, bound⟩) :
    ∃ word, numberSetting environment name bound convert otherwise = .ok word := by
  cases hlookup : environment.lookup name with
  | none => exact ⟨otherwise, numberSetting_of_unset hlookup⟩
  | some text =>
      obtain ⟨value, hbound, hdenotes⟩ := hreadable text hlookup
      have hvalue := wholeNumber?_eq_some_iff.mpr ⟨hdenotes, hbound⟩
      exact ⟨convert value, numberSetting_of_number hlookup hvalue⟩

theorem numberSetting_of_not_readable (hunreadable : ¬Readable environment ⟨name, bound⟩) :
    numberSetting environment name bound convert otherwise = .error ⟨name⟩ := by
  unfold Readable at hunreadable
  push Not at hunreadable
  obtain ⟨text, hlookup, hnumber⟩ := hunreadable
  have hvalue : wholeNumber? bound text = none := by
    rw [Option.eq_none_iff_forall_ne_some]
    intro value hvalue
    obtain ⟨hdenotes, hbound⟩ := wholeNumber?_eq_some_iff.mp hvalue
    exact hnumber value hbound hdenotes
  exact numberSetting_of_fault hlookup hvalue

end

/-! ### Reading all of them -/

/-- The settings hold what the variables give. -/
structure ReadFrom (settings : Settings) (environment : Environment) : Prop where
  httpPort : Gives environment "HTTP_PORT" 8081 settings.httpPort.toNat
  watchNamespace : settings.watchNamespace = environment.lookup "MCP_OPERATOR_WATCH_NAMESPACE"
  workers : Gives environment "MCP_OPERATOR_WORKERS" 4 settings.workers.toNat
  errorRequeueSeconds :
    Gives environment "MCP_OPERATOR_ERROR_REQUEUE_SECS" 60 settings.errorRequeueSeconds.toNat

/-- The variable cannot be read, and each that is declared before it can. -/
def FirstUnreadable (environment : Environment) (name : String) : Prop :=
  ∃ earlier entry later, numberVariables = earlier ++ entry :: later ∧
    (∀ other ∈ earlier, Readable environment other) ∧ ¬Readable environment entry ∧
    entry.name = name

theorem ofEnvironment_eq_ok_iff {settings : Settings} :
    ofEnvironment environment = .ok settings ↔ settings.ReadFrom environment := by
  constructor
  · intro hread
    unfold ofEnvironment at hread
    obtain ⟨httpPort, hhttpPort, hread⟩ := exists_of_bind_eq_ok hread
    obtain ⟨workers, hworkers, hread⟩ := exists_of_bind_eq_ok hread
    obtain ⟨seconds, hseconds, hread⟩ := exists_of_bind_eq_ok hread
    obtain rfl := Except.ok.inj hread
    exact ⟨(numberSetting_eq_ok_iff represents_uint16).mp hhttpPort, rfl,
      (numberSetting_eq_ok_iff represents_uint64).mp hworkers,
      (numberSetting_eq_ok_iff represents_uint64).mp hseconds⟩
  · rintro ⟨hhttpPort, hnamespace, hworkers, hseconds⟩
    unfold ofEnvironment
    rw [(numberSetting_eq_ok_iff represents_uint16).mpr hhttpPort,
      (numberSetting_eq_ok_iff represents_uint64).mpr hworkers,
      (numberSetting_eq_ok_iff represents_uint64).mpr hseconds, ← hnamespace]
    rfl

/-- Either all variables can be read and so are the settings, or the first that cannot be is told. -/
theorem ofEnvironment_outcome (environment : Environment) :
    ((∀ entry ∈ numberVariables, Readable environment entry) ∧
        ∃ settings, ofEnvironment environment = .ok settings) ∨
      ∃ name, FirstUnreadable environment name ∧ ofEnvironment environment = .error ⟨name⟩ := by
  let port : NumberVariable := ⟨"HTTP_PORT", UInt16.size⟩
  let workers : NumberVariable := ⟨"MCP_OPERATOR_WORKERS", UInt64.size⟩
  let seconds : NumberVariable := ⟨"MCP_OPERATOR_ERROR_REQUEUE_SECS", UInt64.size⟩
  unfold ofEnvironment
  by_cases hport : Readable environment port
  · obtain ⟨_, hportRead⟩ := numberSetting_of_readable UInt16.ofNat initial.httpPort hport
    by_cases hworkers : Readable environment workers
    · obtain ⟨_, hworkersRead⟩ := numberSetting_of_readable UInt64.ofNat initial.workers hworkers
      by_cases hseconds : Readable environment seconds
      · obtain ⟨_, hsecondsRead⟩ :=
          numberSetting_of_readable UInt64.ofNat initial.errorRequeueSeconds hseconds
        rw [hportRead, hworkersRead, hsecondsRead]
        refine .inl ⟨?_, _, rfl⟩
        simpa [numberVariables] using ⟨hport, hworkers, hseconds⟩
      · rw [hportRead, hworkersRead, numberSetting_of_not_readable hseconds]
        refine .inr ⟨seconds.name, ⟨[port, workers], seconds, [], rfl, ?_, hseconds, rfl⟩, rfl⟩
        simpa using ⟨hport, hworkers⟩
    · rw [hportRead, numberSetting_of_not_readable hworkers]
      refine .inr ⟨workers.name, ⟨[port], workers, [seconds], rfl, ?_, hworkers, rfl⟩, rfl⟩
      simpa using hport
  · rw [numberSetting_of_not_readable hport]
    refine .inr ⟨port.name, ⟨[], port, [workers, seconds], rfl, ?_, hport, rfl⟩, rfl⟩
    exact List.forall_mem_nil _

/-! ### Usable settings -/

variable (settings : Settings)

theorem toNat_workers_normalized :
    settings.normalized.workers.toNat = max settings.workers.toNat 1 :=
  UInt64.toNat_max settings.workers 1

theorem toNat_errorRequeueSeconds_normalized :
    settings.normalized.errorRequeueSeconds.toNat = max settings.errorRequeueSeconds.toNat 1 :=
  UInt64.toNat_max settings.errorRequeueSeconds 1

theorem watchNamespace_normalized_eq_none_iff :
    settings.normalized.watchNamespace = none ↔ ∀ text, settings.watchNamespace = some text →
      ∀ character ∈ text.toList, Text.isWhiteSpace character = true := by
  unfold normalized
  rw [Option.filter_eq_none_iff]
  refine forall₂_congr fun text _ => ?_
  rw [Bool.not_eq_true', Bool.not_eq_false]
  exact List.all_eq_true

theorem normalized_normalized : settings.normalized.normalized = settings.normalized := by
  have hworkers : settings.normalized.normalized.workers = settings.normalized.workers := by
    apply UInt64.toNat.inj
    rw [toNat_workers_normalized, toNat_workers_normalized]
    omega
  have hseconds : settings.normalized.normalized.errorRequeueSeconds =
      settings.normalized.errorRequeueSeconds := by
    apply UInt64.toNat.inj
    rw [toNat_errorRequeueSeconds_normalized, toNat_errorRequeueSeconds_normalized]
    omega
  have hnamespace : settings.normalized.normalized.watchNamespace =
      settings.normalized.watchNamespace := by
    unfold normalized
    simp only [Option.filter_filter, Bool.and_self]
  calc settings.normalized.normalized
      = ⟨settings.httpPort, settings.normalized.normalized.watchNamespace,
          settings.normalized.normalized.workers,
          settings.normalized.normalized.errorRequeueSeconds⟩ := rfl
    _ = settings.normalized := by rw [hworkers, hseconds, hnamespace]; rfl

theorem toNat_concurrency : settings.concurrency.toNat = min settings.workers.toNat 65535 :=
  UInt16.toNat_ofNat_of_lt' (by
    change min settings.workers.toNat 65535 < 65536
    omega)

/-- Settings after zeros and a blank namespace were taken out, and nothing else was done. -/
structure Normalizes (settings usable : Settings) : Prop where
  httpPort : usable.httpPort = settings.httpPort
  workers : 1 ≤ usable.workers.toNat
  workers_kept : 1 ≤ settings.workers.toNat → usable.workers = settings.workers
  errorRequeueSeconds : 1 ≤ usable.errorRequeueSeconds.toNat
  errorRequeueSeconds_kept : 1 ≤ settings.errorRequeueSeconds.toNat →
    usable.errorRequeueSeconds = settings.errorRequeueSeconds
  unwatched_iff : usable.watchNamespace = none ↔ ∀ text, settings.watchNamespace = some text →
    ∀ character ∈ text.toList, Text.isWhiteSpace character = true
  watched : ∀ text, usable.watchNamespace = some text → settings.watchNamespace = some text

theorem normalizes_normalized : settings.Normalizes settings.normalized := by
  have hworkers := settings.toNat_workers_normalized
  have hseconds := settings.toNat_errorRequeueSeconds_normalized
  refine ⟨rfl, by omega, fun hkept => ?_, by omega, fun hkept => ?_,
    settings.watchNamespace_normalized_eq_none_iff, fun text hwatched => ?_⟩
  · apply UInt64.toNat.inj
    omega
  · apply UInt64.toNat.inj
    omega
  · exact (Option.filter_eq_some_iff.mp hwatched).1

/-- Settings can be relied on whatever the environment holds. They are read exactly if each of the
numbers that is set is one in decimal notation and small enough, and else the first that is not is
told. What is read is what the environment says; what is made of it is usable; and a controller that
is given this takes it over as it is, and lets as many passes run at once as there are workers, up to
what it can count: always some. -/
theorem ofEnvironment_usable (environment : Environment) :
    ((∃ settings, ofEnvironment environment = .ok settings) ↔
        ∀ entry ∈ numberVariables, Readable environment entry) ∧
      (∀ error, ofEnvironment environment = .error error →
        FirstUnreadable environment error.variableName) ∧
      ∀ settings, ofEnvironment environment = .ok settings →
        let usable := settings.normalized
        settings.ReadFrom environment ∧ settings.Normalizes usable ∧
          ∀ scenario : Controller.Scenario, scenario.settings = usable →
            let taken := scenario.normalized.settings
            taken = usable ∧ taken.concurrency.toNat = min usable.workers.toNat 65535 ∧
              1 ≤ taken.concurrency.toNat ∧ taken.concurrency.toNat ≤ 65535 := by
  refine ⟨?_, ?_, ?_⟩
  · rcases ofEnvironment_outcome environment with ⟨hreadable, hread⟩ | ⟨name, hfirst, herror⟩
    · exact iff_of_true hread hreadable
    · obtain ⟨earlier, entry, later, hvariables, _, hunreadable, _⟩ := hfirst
      refine iff_of_false ?_ fun hreadable => hunreadable (hreadable entry ?_)
      · rintro ⟨settings, hread⟩
        cases herror.symm.trans hread
      · rw [hvariables]
        exact List.mem_append_right earlier List.mem_cons_self
  · intro error herror
    rcases ofEnvironment_outcome environment with ⟨_, settings, hread⟩ | ⟨name, hfirst, htold⟩
    · cases herror.symm.trans hread
    · obtain rfl := Except.error.inj (herror.symm.trans htold)
      exact hfirst
  · intro settings hread usable
    refine ⟨ofEnvironment_eq_ok_iff.mp hread, settings.normalizes_normalized, ?_⟩
    intro scenario hsettings taken
    have htaken : taken = usable := by
      change scenario.settings.normalized = usable
      rw [hsettings]
      exact settings.normalized_normalized
    have hworkers : 1 ≤ usable.workers.toNat := settings.normalizes_normalized.workers
    have hconcurrency := usable.toNat_concurrency
    refine ⟨htaken, ?_, ?_, ?_⟩ <;> rw [htaken, hconcurrency] <;> omega

/-- A number with zeros and a sign before it, no delay, more workers than can be counted, and white
space of two sorts as the namespace. Where the delay has a blank and the workers are one too many, the
workers are told, which are declared first. -/
theorem ofEnvironment_usable_extremes :
    let environment : Environment :=
      [("HTTP_PORT", "+0080"), ("MCP_OPERATOR_WATCH_NAMESPACE", " \u3000"),
        ("MCP_OPERATOR_WORKERS", "18446744073709551615"), ("MCP_OPERATOR_ERROR_REQUEUE_SECS", "0")]
    let settings : Settings := ⟨80, some " \u3000", 18446744073709551615, 0⟩
    let scenario : Controller.Scenario :=
      ⟨settings.normalized, .empty, [], [], 0, 0, fun _ => ""⟩
    let faulty : Environment :=
      [("MCP_OPERATOR_ERROR_REQUEUE_SECS", "60 "), ("MCP_OPERATOR_WORKERS", "18446744073709551616")]
    ofEnvironment environment = .ok settings ∧ Denotes "+0080" 80 ∧
      settings.normalized.watchNamespace = none ∧
      settings.normalized.errorRequeueSeconds.toNat = 1 ∧
      scenario.normalized.settings.concurrency.toNat = 65535 ∧
      ofEnvironment faulty = .error ⟨"MCP_OPERATOR_WORKERS"⟩ ∧
      FirstUnreadable faulty "MCP_OPERATOR_WORKERS" := by
  intro environment settings scenario faulty
  have hread : ofEnvironment environment = .ok settings := by decide +kernel
  have herror : ofEnvironment faulty = .error ⟨"MCP_OPERATOR_WORKERS"⟩ := by decide +kernel
  obtain ⟨_, _, husable⟩ := ofEnvironment_usable environment
  obtain ⟨_, hfirst, _⟩ := ofEnvironment_usable faulty
  obtain ⟨hfrom, hnormalizes, hcontroller⟩ := husable settings hread
  obtain ⟨_, hconcurrency, _, _⟩ := hcontroller scenario rfl
  have hblank : settings.normalized.watchNamespace = none := by
    refine hnormalizes.unwatched_iff.mpr ?_
    rintro _ ⟨⟩
    exact List.all_eq_true.mp (by decide +kernel)
  have hworkers : scenario.normalized.settings.concurrency.toNat = 65535 := by
    rw [hconcurrency]
    decide
  exact ⟨hread, hfrom.httpPort, hblank, by decide, hworkers, herror, hfirst _ herror⟩

end Settings

end ServerOperator
