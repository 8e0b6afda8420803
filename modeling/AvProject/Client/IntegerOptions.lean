import AvProject.Client.CliOptions

/-!
The options with an integer: which argument leads to which setting. `ParseInt` tests whether
the number fits into a `long` and casts it to an `int`.
-/

namespace AvProject.Client.Cli

open AvProject.Lib

section

variable {σ : Type}

/-- The option of this name, if it takes an integer. -/
def intOptionOf (options : List (String × OptionAction σ)) (name : List Char) :
    Option (String × IntOption σ) :=
  match findOption options name with
  | some (optionName, .int option) => some (optionName, option)
  | _ => none

/-- The argument is invalid, or it is a number of the type `int`, not below the least one, and
this number is stored, raised to the minimum. -/
def StoresOrRejects (option : IntOption σ) (name : String) (value : List Char)
    (outcome : ParseOutcome σ) : Prop :=
  outcome.result = buildInvalidValueResult name ∨
    ∃ n, Denotes value n ∧ (-2 ^ 31 ≤ n ∧ n < 2 ^ 31) ∧ (∀ bound ∈ option.least, bound ≤ n) ∧
      outcome.result = buildHandledSuccess ∧ option.get outcome.settings = option.raise n

/-- A number that fits into a `long` and not into an `int`, and whose low 32 bits, as an `int`,
are not below the least one. -/
def Truncates (option : IntOption σ) (value : List Char) : Prop :=
  ∃ n, Denotes value n ∧ (-2 ^ 63 ≤ n ∧ n < 2 ^ 63) ∧ ¬ (-2 ^ 31 ≤ n ∧ n < 2 ^ 31) ∧
    ∀ bound ∈ option.least, bound ≤ Int.bmod n (2 ^ 32)

end

section

variable {δ : Type}

/-- The integer option that a program has under this name, a shared one or one of its own. -/
def sharedOrOwnIntOption {σ : Type} (fp : Doubles δ) (stream : σ → StreamSettings δ)
    (setStream : σ → StreamSettings δ → σ) (stream_set : ∀ s new, stream (setStream s new) = new)
    (own : List (String × OptionAction σ)) (name : List Char) :
    Option (String × IntOption σ) :=
  match findOption (streamOptions fp) name with
  | some (optionName, .int option) =>
      some (optionName, option.within stream setStream stream_set)
  | some _ => none
  | none => intOptionOf own name

def clientIntOption (fp : Doubles δ) (name : List Char) :
    Option (String × IntOption (ClientSettings δ)) :=
  sharedOrOwnIntOption fp (·.stream) (fun s stream => { s with stream }) (fun _ _ => rfl)
    clientOptions name

def benchmarkIntOption (fp : Doubles δ) (name : List Char) :
    Option (String × IntOption (BenchmarkSettings δ)) :=
  sharedOrOwnIntOption fp (·.stream) (fun s stream => { s with stream }) (fun _ _ => rfl)
    benchmarkOptions name

end

/-! ### Numbers -/

section

variable {σ τ : Type} {option : IntOption σ} {name : String} {value : List Char} {n : ℤ}
  {settings : σ}

theorem denotes_ne_nil (h : Denotes value n) : value ≠ [] := by
  rintro rfl
  exact (denotes_iff.mp h).1 rfl

theorem parseInt_eq_some {parsed : ℤ} : parseInt value = some parsed ↔
    ∃ n, Denotes value n ∧ (-2 ^ 63 ≤ n ∧ n < 2 ^ 63) ∧ parsed = Int.bmod n (2 ^ 32) := by
  have hwhole := @strtol_whole value
  rw [parseInt]
  split
  · rename_i hempty
    constructor
    · intro h
      cases h
    · rintro ⟨n, hn, -⟩
      exact absurd hempty (denotes_ne_nil hn)
  · dsimp only
    split
    · rename_i hfail
      constructor
      · intro h
        cases h
      -- the whole text is a number of the type `long`, so neither test fails
      · rintro ⟨n, hn, hlong, -⟩
        obtain ⟨hrange, hstop, -⟩ := hwhole.mpr ⟨hn, hlong⟩
        rcases hfail with hout | hnot
        · rw [hrange] at hout
          cases hout
        · exact absurd hstop hnot
    · rename_i hok
      rw [not_or, Bool.not_eq_true, not_not] at hok
      constructor
      · intro h
        obtain ⟨hn, hlong⟩ := hwhole.mp ⟨hok.1, hok.2, rfl⟩
        exact ⟨_, hn, hlong, (Option.some.inj h).symm⟩
      · rintro ⟨n, hn, hlong, rfl⟩
        rw [(hwhole.mpr ⟨hn, hlong⟩).2.2]

/-- A number of the type `int` is not changed by the cast. -/
theorem bmod_of_int (hn : -2 ^ 31 ≤ n ∧ n < 2 ^ 31) : Int.bmod n (2 ^ 32) = n := by
  refine Int.bmod_eq_of_le ?_ ?_
  · have hhalf : -(((2 ^ 32 : ℕ) : ℤ) / 2) = -2 ^ 31 := by norm_num
    rw [hhalf]
    exact hn.1
  · have hhalf : (((2 ^ 32 : ℕ) : ℤ) + 1) / 2 = 2 ^ 31 := by norm_num
    rw [hhalf]
    exact hn.2

theorem raise_bounds (option : IntOption σ) (value : ℤ) :
    value ≤ option.raise value ∧ ∀ bound ∈ option.minimum, bound ≤ option.raise value := by
  rw [IntOption.raise]
  cases option.minimum with
  | none => exact ⟨le_rfl, fun bound hbound => by cases hbound⟩
  | some minimum =>
      refine ⟨le_max_right _ _, fun bound hbound => ?_⟩
      obtain rfl := Option.some.inj hbound
      exact le_max_left _ _

theorem get_set_raise {parsed : ℤ} (hleast : ∀ bound ∈ option.least, bound ≤ parsed) :
    option.get (option.set settings (option.raise parsed)) = option.raise parsed := by
  obtain ⟨hle, hminimum⟩ := raise_bounds option parsed
  exact option.get_set settings _ (fun bound hbound => (hleast bound hbound).trans hle) hminimum

theorem invalid_ne_success : buildInvalidValueResult name ≠ buildHandledSuccess := by
  intro h
  cases congrArg CliParseResult.success h

/-- An argument of the type `long` is the number that it denotes, or it is truncated. -/
theorem parseValue_iff {index : ℕ} :
    StoresOrRejects option name value
        { result := (option.parseValue name value settings).1
          index
          settings := (option.parseValue name value settings).2 } ↔
      ¬ Truncates option value := by
  rw [IntOption.parseValue]
  cases hparse : parseInt value with
  | none =>
      refine iff_of_true (.inl rfl) ?_
      rintro ⟨n, hn, hlong, -⟩
      have hsome := parseInt_eq_some.mpr ⟨n, hn, hlong, rfl⟩
      rw [hparse] at hsome
      cases hsome
  | some parsed =>
      obtain ⟨n, hn, hlong, rfl⟩ := parseInt_eq_some.mp hparse
      simp only
      split
      · rename_i hlow
        refine iff_of_true (.inl rfl) ?_
        rintro ⟨m, hm, -, -, hleast⟩
        obtain ⟨bound, hbound, hlt⟩ := hlow
        rw [hn.unique hm] at hlt
        exact absurd (hleast bound hbound) (not_le.mpr hlt)
      · rename_i hnot
        have hleast : ∀ bound ∈ option.least, bound ≤ Int.bmod n (2 ^ 32) :=
          fun bound hbound => not_lt.mp fun hlt => hnot ⟨bound, hbound, hlt⟩
        -- the number has passed every test; only the cast can have changed it
        by_cases hint : -2 ^ 31 ≤ n ∧ n < 2 ^ 31
        · have hcast := bmod_of_int hint
          refine iff_of_true (.inr ⟨n, hn, hint, hcast ▸ hleast, rfl, ?_⟩) ?_
          · rw [get_set_raise hleast, hcast]
          · rintro ⟨m, hm, -, hout, -⟩
            exact hout (hn.unique hm ▸ hint)
        · refine iff_of_false ?_ (not_not.mpr ⟨n, hn, hlong, hint, hleast⟩)
          rintro (hinvalid | ⟨m, hm, hrange, -⟩)
          · exact invalid_ne_success hinvalid.symm
          · exact hint (hn.unique hm ▸ hrange)

theorem storesOrRejects_within {part : τ → σ} {update : τ → σ → τ}
    {part_update : ∀ t s, part (update t s) = s} {t : τ} {result : CliParseResult} {index : ℕ} :
    StoresOrRejects (option.within part update part_update) name value
        { result, index, settings := update t settings } ↔
      StoresOrRejects option name value { result, index, settings } := by
  simp only [StoresOrRejects, IntOption.within, part_update, IntOption.raise]

end

/-! ### Calls -/

section

variable {σ : Type} {options : List (String × OptionAction σ)} {name value : List Char}
  {argv : List (List Char)} {index : ℕ} {settings : σ} {optionName : String}
  {action : OptionAction σ} {option : IntOption σ}

theorem getD_of_getElem? (hname : argv[index]? = some name) : argv.getD index [] = name := by
  rw [List.getD_eq_getElem?_getD, hname, Option.getD_some]

theorem parseOption_of_find (settings : σ) (hname : argv[index]? = some name)
    (hvalue : argv[index + 1]? = some value)
    (hfind : findOption options name = some (optionName, action)) :
    parseOption options argv index settings =
      { result := (action.parseValue optionName value settings).1
        index := index + 1
        settings := (action.parseValue optionName value settings).2 } := by
  rw [parseOption, getD_of_getElem? hname, hfind, hvalue]

theorem parseOption_of_none (hname : argv[index]? = some name)
    (hfind : findOption options name = none) :
    parseOption options argv index settings = { result := {}, index, settings } := by
  rw [parseOption, getD_of_getElem? hname, hfind]

theorem intOptionOf_eq_some (h : intOptionOf options name = some (optionName, option)) :
    findOption options name = some (optionName, .int option) := by
  rw [intOptionOf] at h
  split at h
  · rename_i hfind
    cases h
    exact hfind
  · cases h

/-- An integer option, called with an argument. -/
theorem parseOption_iff (hname : argv[index]? = some name)
    (hvalue : argv[index + 1]? = some value)
    (hfind : findOption options name = some (optionName, .int option)) :
    StoresOrRejects option optionName value (parseOption options argv index settings) ↔
      ¬ Truncates option value := by
  rw [parseOption_of_find settings hname hvalue hfind]
  exact parseValue_iff

theorem handled_parseValue (option : IntOption σ) (optionName : String) (value : List Char)
    (settings : σ) : (option.parseValue optionName value settings).1.handled = true := by
  rw [IntOption.parseValue]
  split
  · rfl
  · split <;> rfl

end

section

variable {δ : Type} {fp : Doubles δ} {name value : List Char} {argv : List (List Char)}
  {index : ℕ} {optionName : String}

/-- A shared option with an integer: nothing else is tried. -/
theorem parseSharedStreamOption_of_find {option : IntOption (StreamSettings δ)}
    (settings : StreamSettings δ) (hname : argv[index]? = some name)
    (hvalue : argv[index + 1]? = some value)
    (hfind : findOption (streamOptions fp) name = some (optionName, .int option)) :
    parseSharedStreamOption fp argv index settings =
      { result := (option.parseValue optionName value settings).1
        index := index + 1
        settings := (option.parseValue optionName value settings).2 } := by
  have hparse := parseOption_of_find settings hname hvalue hfind
  have hhandled := handled_parseValue option optionName value settings
  rw [parseSharedStreamOption, hparse]
  exact if_pos hhandled

/-- A name that is no shared option and not that of the help. -/
theorem parseSharedStreamOption_none {settings : StreamSettings δ}
    (hname : argv[index]? = some name) (hfind : findOption (streamOptions fp) name = none)
    (hhelp : name ≠ "--help".toList) :
    (parseSharedStreamOption fp argv index settings).result.handled = false := by
  rw [parseSharedStreamOption, parseOption_of_none hname hfind, getD_of_getElem? hname]
  dsimp only
  rw [if_neg Bool.false_ne_true, if_neg hhelp]

theorem clientOptions_help :
    findOption (clientOptions : List (String × OptionAction (ClientSettings δ)))
      "--help".toList = none := by
  rw [findOption, List.find?_eq_none]
  simp [clientOptions]

theorem benchmarkOptions_help :
    findOption (benchmarkOptions : List (String × OptionAction (BenchmarkSettings δ)))
      "--help".toList = none := by
  rw [findOption, List.find?_eq_none]
  simp [benchmarkOptions]

theorem parseSharedThenOwn_iff {σ : Type} {stream : σ → StreamSettings δ}
    {setStream : σ → StreamSettings δ → σ} (stream_set : ∀ s new, stream (setStream s new) = new)
    {own : List (String × OptionAction σ)} (hhelp : findOption own "--help".toList = none)
    {option : IntOption σ} {settings : σ} (hname : argv[index]? = some name)
    (hvalue : argv[index + 1]? = some value)
    (hoption : sharedOrOwnIntOption fp stream setStream stream_set own name =
      some (optionName, option)) :
    StoresOrRejects option optionName value
        (parseSharedThenOwn fp stream setStream own argv index settings) ↔
      ¬ Truncates option value := by
  rw [sharedOrOwnIntOption] at hoption
  rw [parseSharedThenOwn]
  split at hoption
  · rename_i sharedName shared hfind
    cases hoption
    rw [parseSharedStreamOption_of_find (stream settings) hname hvalue hfind]
    dsimp only
    rw [if_pos (handled_parseValue shared _ value (stream settings))]
    exact storesOrRejects_within.trans parseValue_iff
  · cases hoption
  · rename_i hfind
    -- the shared parser handles the help, too
    have hnotHelp : name ≠ "--help".toList := by
      rintro rfl
      rw [intOptionOf, hhelp] at hoption
      cases hoption
    rw [parseSharedStreamOption_none hname hfind hnotHelp, if_neg Bool.false_ne_true]
    exact parseOption_iff hname hvalue (intOptionOf_eq_some hoption)

end

/-- Every integer option of either program takes an argument as what it denotes, or reports it,
exactly if the cast from `long` to `int` does not change what it denotes into a number that
passes. -/
theorem integerOptions_iff {δ : Type} (fp : Doubles δ) {name value : List Char}
    {argv : List (List Char)} {index : ℕ} {optionName : String}
    (hname : argv[index]? = some name) (hvalue : argv[index + 1]? = some value) :
    (∀ option settings, clientIntOption fp name = some (optionName, option) →
        (StoresOrRejects option optionName value (parseClientOption fp argv index settings) ↔
          ¬ Truncates option value)) ∧
      ∀ option settings, benchmarkIntOption fp name = some (optionName, option) →
        (StoresOrRejects option optionName value
            (parseUdpBenchmarkOption fp argv index settings) ↔
          ¬ Truncates option value) :=
  ⟨fun _ _ hoption => parseSharedThenOwn_iff _ clientOptions_help hname hvalue hoption,
    fun _ _ hoption => parseSharedThenOwn_iff _ benchmarkOptions_help hname hvalue hoption⟩

/-- No floating-point number is used. -/
def noDoubles : Doubles Unit where
  parseDouble _ := none
  notPositive _ := true
  oneAndAHalf := ()

def defaultClient : ClientSettings Unit where
  stream := { udpJitterBufferSafetyFactor := noDoubles.oneAndAHalf }

/-- `--port`, as the client sees it. -/
def portOption : IntOption (ClientSettings Unit) where
  get s := s.stream.port
  set s value := { s with stream := { s.stream with port := value } }
  get_set _ _ _ _ := rfl

theorem findOption_port : findOption (streamOptions noDoubles) "--port".toList =
    some ("--port", .exact (·.port) (fun s v => { s with port := v }) fun _ _ => rfl) := by
  rw [findOption, streamOptions, List.find?_cons_of_neg (by decide),
    List.find?_cons_of_pos (by decide)]

theorem clientIntOption_port :
    clientIntOption noDoubles "--port".toList = some ("--port", portOption) := by
  rw [clientIntOption, sharedOrOwnIntOption, findOption_port]
  rfl

/-- The usual port, and one more than the numbers of 32 bits. -/
def usualPort : List (List Char) := ["sclient".toList, "--port".toList, "5004".toList]

def hugePort : List (List Char) := ["sclient".toList, "--port".toList, "4294967297".toList]

theorem denotes_hugePort : Denotes "4294967297".toList 4294967297 :=
  denotes_iff.mpr (by decide)

theorem truncates_hugePort : Truncates portOption "4294967297".toList :=
  ⟨4294967297, denotes_hugePort, by norm_num, by norm_num, fun bound hbound => by cases hbound⟩

theorem not_truncates_usualPort : ¬ Truncates portOption "5004".toList := by
  rintro ⟨n, hn, -, hout, -⟩
  obtain rfl : n = 5004 := hn.unique (denotes_iff.mpr (by decide))
  exact hout (by norm_num)

theorem integerOptions_usualPort :
    StoresOrRejects portOption "--port" "5004".toList
      (parseClientOption noDoubles usualPort 1 defaultClient) :=
  ((integerOptions_iff noDoubles rfl rfl).1 portOption defaultClient clientIntOption_port).mpr
    not_truncates_usualPort

theorem not_storesOrRejects_hugePort :
    clientIntOption noDoubles "--port".toList = some ("--port", portOption) ∧
      Denotes "4294967297".toList 4294967297 ∧
      (parseClientOption noDoubles hugePort 1 defaultClient).settings.stream.port = 1 ∧
      ¬ StoresOrRejects portOption "--port" "4294967297".toList
        (parseClientOption noDoubles hugePort 1 defaultClient) := by
  refine ⟨clientIntOption_port, denotes_hugePort, ?_, fun h => ?_⟩
  · have hparse : parseInt "4294967297".toList = some 1 := by decide
    have hshared := parseSharedStreamOption_of_find defaultClient.stream
      (show hugePort[1]? = some "--port".toList from rfl)
      (show hugePort[1 + 1]? = some "4294967297".toList from rfl) findOption_port
    rw [IntOption.parseValue, hparse] at hshared
    rw [parseClientOption, parseSharedThenOwn, hshared]
    rfl
  · exact (parseSharedThenOwn_iff _ clientOptions_help rfl rfl clientIntOption_port).mp h
      truncates_hugePort

end AvProject.Client.Cli
