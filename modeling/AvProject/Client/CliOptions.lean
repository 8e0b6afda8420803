import AvProject.Lib.Numerals

/-!
The command-line options of the client and of the UDP benchmark. An option is a name and what
is done with the argument behind it; both programs try the shared stream options first.
Floating-point numbers are left open.
-/

namespace AvProject.Client.Cli

open AvProject.Lib

/-! ### Settings -/

inductive DecodeBackend | kAuto | kSoftware
  deriving DecidableEq, Repr

inductive RenderBackend | kAuto | kOpenGl
  deriving DecidableEq, Repr

/-- What the options use of `double`. -/
structure Doubles (δ : Type) where
  /-- `ParseDouble`. -/
  parseDouble : List Char → Option δ
  /-- `<= 0.0`. -/
  notPositive : δ → Bool
  /-- `1.5`. -/
  oneAndAHalf : δ

/-- The fields of `ClientConfig` that options set, and the decoder. -/
structure StreamSettings (δ : Type) where
  host : List Char := "127.0.0.1".toList
  port : ℤ := 9999
  transport : List Char := "tcp".toList
  sdpPath : List Char := []
  expectMetadata : Bool := true
  udpJitterBufferEnabled : Bool := true
  udpJitterBufferStrategy : List Char := "auto".toList
  udpJitterBufferTargetDelayMs : ℤ := 8
  udpJitterBufferAdaptiveMaxDelayMs : ℤ := 120
  udpJitterBufferMaxWaitMs : ℤ := 40
  udpJitterBufferMaxFrames : ℕ := 4
  udpJitterBufferMinDelayMs : ℤ := 2
  udpJitterBufferSafetyFactor : δ
  udpNackEnabled : Bool := true
  udpFecEnabled : Bool := true
  udpNackRequestDelayMs : ℤ := 25
  udpNackRetryIntervalMs : ℤ := 20
  udpNackMaxRetries : ℤ := 3
  udpTestJitterPattern : List Char := "none".toList
  udpTestJitterAmplitudeMs : ℤ := 0
  udpTestJitterPeriod : ℤ := 6
  udpTestLossPattern : List Char := "none".toList
  udpTestLossPeriod : ℤ := 30
  udpTestLossCount : ℤ := 1
  decodeBackend : DecodeBackend := .kAuto

structure ClientSettings (δ : Type) where
  stream : StreamSettings δ
  renderBackend : RenderBackend := .kAuto
  rendererVsyncEnabled : Bool := false
  windowTitle : List Char := "sclient".toList
  receiveQueueCapacity : ℕ := 8
  decodeQueueCapacity : ℕ := 3

structure BenchmarkSettings (δ : Type) where
  stream : StreamSettings δ
  framesToMeasure : ℤ := 240
  decodeFrames : Bool := false

/-! ### Arguments -/

/-- `ParseInt`; a `long` is cast to an `int`. -/
def parseInt (value : List Char) : Option ℤ :=
  if value = [] then none
  else
    let result := strtol value
    if result.outOfRange ∨ result.stop ≠ some [] then none
    else some (Int.bmod result.parsed (2 ^ 32))

def parseBoolFlag (value : List Char) : Option Bool :=
  if ["on", "true", "1"].any fun word => word.toList == value then some true
  else if ["off", "false", "0"].any fun word => word.toList == value then some false
  else none

def parseDecodeBackend (value : List Char) : Option DecodeBackend :=
  if value = "auto".toList then some .kAuto
  else if value = "software".toList then some .kSoftware
  else none

def parseRenderBackend (value : List Char) : Option RenderBackend :=
  if value = "auto".toList then some .kAuto
  else if value = "opengl".toList then some .kOpenGl
  else none

structure CliParseResult where
  handled : Bool := false
  success : Bool := true
  showHelp : Bool := false
  errorMessage : String := ""
  deriving DecidableEq, Repr

def buildInvalidValueResult (optionName : String) : CliParseResult where
  handled := true
  success := false
  errorMessage := "invalid value for " ++ optionName

def buildMissingValueResult (optionName : String) : CliParseResult where
  handled := true
  success := false
  errorMessage := "missing value for " ++ optionName

def buildHandledSuccess : CliParseResult where
  handled := true

def buildHelpResult : CliParseResult where
  handled := true
  showHelp := true

/-! ### Options -/

/-- A setting that is an integer. A number below `least` is invalid, one below `minimum` is
raised to it. -/
structure IntOption (σ : Type) where
  least : Option ℤ := none
  minimum : Option ℤ := none
  get : σ → ℤ
  set : σ → ℤ → σ
  get_set : ∀ s value, (∀ bound ∈ least, bound ≤ value) → (∀ bound ∈ minimum, bound ≤ value) →
    get (set s value) = value

namespace IntOption

variable {σ τ : Type}

/-- The number that is stored: `std::max` where there is a minimum. -/
def raise (option : IntOption σ) (value : ℤ) : ℤ :=
  match option.minimum with
  | none => value
  | some bound => max bound value

/-- The setting as part of others. -/
def within (option : IntOption σ) (part : τ → σ) (update : τ → σ → τ)
    (part_update : ∀ t s, part (update t s) = s) : IntOption τ where
  least := option.least
  minimum := option.minimum
  get t := option.get (part t)
  set t value := update t (option.set (part t) value)
  get_set t value hleast hminimum := by
    rw [part_update]
    exact option.get_set (part t) value hleast hminimum

/-- The result and the settings behind it. -/
def parseValue (option : IntOption σ) (name : String) (value : List Char) (settings : σ) :
    CliParseResult × σ :=
  match parseInt value with
  | none => (buildInvalidValueResult name, settings)
  | some parsed =>
      if ∃ bound ∈ option.least, parsed < bound then (buildInvalidValueResult name, settings)
      else (buildHandledSuccess, option.set settings (option.raise parsed))

end IntOption

/-- What an option does with its argument. -/
inductive OptionAction (σ : Type)
  | int (option : IntOption σ)
  | onOff (set : σ → Bool → σ)
  /-- The argument is stored, even where it is then found invalid. -/
  | other (store : σ → List Char → σ) (valid : List Char → Bool)

namespace OptionAction

variable {σ β : Type}

/-- An `int` as it is. -/
def exact (get : σ → ℤ) (set : σ → ℤ → σ) (get_set : ∀ s value, get (set s value) = value) :
    OptionAction σ :=
  .int { get, set, get_set := fun s value _ _ => get_set s value }

/-- An `int` that is raised to a minimum. -/
def raised (minimum : ℤ) (get : σ → ℤ) (set : σ → ℤ → σ)
    (get_set : ∀ s value, minimum ≤ value → get (set s value) = value) : OptionAction σ :=
  .int { minimum, get, set, get_set := fun s value _ h => get_set s value (h minimum rfl) }

/-- A number from one on. -/
def positive (get : σ → ℤ) (set : σ → ℤ → σ)
    (get_set : ∀ s value, 1 ≤ value → get (set s value) = value) : OptionAction σ :=
  .int { least := some 1, get, set, get_set := fun s value h _ => get_set s value (h 1 rfl) }

/-- A text that may be anything. -/
def text (store : σ → List Char → σ) : OptionAction σ := .other store fun _ => true

/-- One of some words. -/
def choice (store : σ → List Char → σ) (words : List String) : OptionAction σ :=
  .other store fun value => words.any fun word => word.toList == value

/-- A value that is only stored where it can be parsed. -/
def parsed (parse : List Char → Option β) (store : σ → β → σ) (valid : β → Bool) :
    OptionAction σ :=
  .other (fun s value => ((parse value).map (store s)).getD s)
    fun value => ((parse value).map valid).getD false

def parseValue (action : OptionAction σ) (name : String) (value : List Char) (settings : σ) :
    CliParseResult × σ :=
  match action with
  | .int option => option.parseValue name value settings
  | .onOff set =>
      match parseBoolFlag value with
      | none => (buildInvalidValueResult name, settings)
      | some flag => (buildHandledSuccess, set settings flag)
  | .other store valid =>
      (if valid value then buildHandledSuccess else buildInvalidValueResult name,
        store settings value)

end OptionAction

/-- The result of a call, with the index and the settings behind it. -/
structure ParseOutcome (σ : Type) where
  result : CliParseResult
  index : ℕ
  settings : σ

section

variable {σ : Type}

def findOption (options : List (String × OptionAction σ)) (name : List Char) :
    Option (String × OptionAction σ) :=
  options.find? fun entry => entry.1.toList == name

/-- The option of the name at `index`, with the argument behind it. -/
def parseOption (options : List (String × OptionAction σ)) (argv : List (List Char)) (index : ℕ)
    (settings : σ) : ParseOutcome σ :=
  match findOption options (argv.getD index []) with
  | none => { result := {}, index, settings }
  | some (name, action) =>
      match argv[index + 1]? with
      | none => { result := buildMissingValueResult name, index, settings }
      | some value =>
          let (result, settings) := action.parseValue name value settings
          { result, index := index + 1, settings }

end

/-! ### The programs -/

section

variable {δ : Type}

def streamOptions (fp : Doubles δ) : List (String × OptionAction (StreamSettings δ)) := [
  ("--host", .text fun s v => { s with host := v }),
  ("--port", .exact (·.port) (fun s v => { s with port := v }) fun _ _ => rfl),
  ("--sdp", .text fun s v => { s with sdpPath := v }),
  ("--metadata", .onOff fun s v => { s with expectMetadata := v }),
  ("--udp-jitter-buffer", .onOff fun s v => { s with udpJitterBufferEnabled := v }),
  ("--udp-jitter-buffer-strategy", .choice (fun s v => { s with udpJitterBufferStrategy := v })
    ["fixed", "adaptive", "auto", "off", "low", "smooth"]),
  ("--udp-jitter-buffer-target-ms", .exact (·.udpJitterBufferTargetDelayMs)
    (fun s v => { s with udpJitterBufferTargetDelayMs := v }) fun _ _ => rfl),
  ("--udp-jitter-buffer-adaptive-max-ms", .exact (·.udpJitterBufferAdaptiveMaxDelayMs)
    (fun s v => { s with udpJitterBufferAdaptiveMaxDelayMs := v }) fun _ _ => rfl),
  ("--udp-jitter-buffer-min-ms", .exact (·.udpJitterBufferMinDelayMs)
    (fun s v => { s with udpJitterBufferMinDelayMs := v }) fun _ _ => rfl),
  ("--udp-jitter-buffer-safety", .parsed fp.parseDouble
    (fun s v => { s with udpJitterBufferSafetyFactor := v }) fun v => !fp.notPositive v),
  ("--udp-jitter-buffer-max-wait-ms", .exact (·.udpJitterBufferMaxWaitMs)
    (fun s v => { s with udpJitterBufferMaxWaitMs := v }) fun _ _ => rfl),
  ("--udp-jitter-buffer-max-frames", .raised 1 (·.udpJitterBufferMaxFrames)
    (fun s v => { s with udpJitterBufferMaxFrames := v.toNat })
    fun _ _ h => Int.toNat_of_nonneg (Int.le_trans Int.one_nonneg h)),
  ("--udp-nack", .onOff fun s v => { s with udpNackEnabled := v }),
  ("--udp-fec", .onOff fun s v => { s with udpFecEnabled := v }),
  ("--udp-nack-delay-ms", .exact (·.udpNackRequestDelayMs)
    (fun s v => { s with udpNackRequestDelayMs := v }) fun _ _ => rfl),
  ("--udp-nack-retry-ms", .exact (·.udpNackRetryIntervalMs)
    (fun s v => { s with udpNackRetryIntervalMs := v }) fun _ _ => rfl),
  ("--udp-nack-max-retries", .exact (·.udpNackMaxRetries)
    (fun s v => { s with udpNackMaxRetries := v }) fun _ _ => rfl),
  ("--inject-loss-pattern", .choice (fun s v => { s with udpTestLossPattern := v })
    ["none", "single", "burst", "alternate"]),
  ("--inject-loss-period", .raised 1 (·.udpTestLossPeriod)
    (fun s v => { s with udpTestLossPeriod := v }) fun _ _ _ => rfl),
  ("--inject-loss-count", .raised 1 (·.udpTestLossCount)
    (fun s v => { s with udpTestLossCount := v }) fun _ _ _ => rfl),
  ("--decoder", .parsed parseDecodeBackend (fun s v => { s with decodeBackend := v })
    fun _ => true)]

def clientOptions : List (String × OptionAction (ClientSettings δ)) := [
  ("--transport", .text fun s v => { s with stream := { s.stream with transport := v } }),
  ("--renderer", .parsed parseRenderBackend (fun s v => { s with renderBackend := v })
    fun _ => true),
  ("--vsync", .onOff fun s v => { s with rendererVsyncEnabled := v }),
  ("--window-title", .text fun s v => { s with windowTitle := v }),
  ("--receive-queue", .positive (·.receiveQueueCapacity)
    (fun s v => { s with receiveQueueCapacity := v.toNat })
    fun _ _ h => Int.toNat_of_nonneg (Int.le_trans Int.one_nonneg h)),
  ("--decode-queue", .positive (·.decodeQueueCapacity)
    (fun s v => { s with decodeQueueCapacity := v.toNat })
    fun _ _ h => Int.toNat_of_nonneg (Int.le_trans Int.one_nonneg h))]

def benchmarkOptions : List (String × OptionAction (BenchmarkSettings δ)) := [
  ("--frames", .raised 1 (·.framesToMeasure) (fun s v => { s with framesToMeasure := v })
    fun _ _ _ => rfl),
  ("--decode", .onOff fun s v => { s with decodeFrames := v }),
  ("--inject-jitter-pattern", .choice
    (fun s v => { s with stream := { s.stream with udpTestJitterPattern := v } })
    ["none", "saw", "burst", "alternate"]),
  ("--inject-jitter-amplitude-ms", .exact (·.stream.udpTestJitterAmplitudeMs)
    (fun s v => { s with stream := { s.stream with udpTestJitterAmplitudeMs := v } })
    fun _ _ => rfl),
  ("--inject-jitter-period", .raised 2 (·.stream.udpTestJitterPeriod)
    (fun s v => { s with stream := { s.stream with udpTestJitterPeriod := v } })
    fun _ _ _ => rfl)]

def parseSharedStreamOption (fp : Doubles δ) (argv : List (List Char)) (index : ℕ)
    (settings : StreamSettings δ) : ParseOutcome (StreamSettings δ) :=
  let outcome := parseOption (streamOptions fp) argv index settings
  if outcome.result.handled then outcome
  else if argv.getD index [] = "--help".toList then { outcome with result := buildHelpResult }
  else outcome

/-- The shared options, and where none of them has the name, those of a program. -/
def parseSharedThenOwn {σ : Type} (fp : Doubles δ) (stream : σ → StreamSettings δ)
    (setStream : σ → StreamSettings δ → σ) (own : List (String × OptionAction σ))
    (argv : List (List Char)) (index : ℕ) (settings : σ) : ParseOutcome σ :=
  let shared := parseSharedStreamOption fp argv index (stream settings)
  if shared.result.handled then
    { result := shared.result
      index := shared.index
      settings := setStream settings shared.settings }
  else parseOption own argv index settings

def parseClientOption (fp : Doubles δ) (argv : List (List Char)) (index : ℕ)
    (settings : ClientSettings δ) : ParseOutcome (ClientSettings δ) :=
  parseSharedThenOwn fp (·.stream) (fun s stream => { s with stream }) clientOptions argv index
    settings

def parseUdpBenchmarkOption (fp : Doubles δ) (argv : List (List Char)) (index : ℕ)
    (settings : BenchmarkSettings δ) : ParseOutcome (BenchmarkSettings δ) :=
  parseSharedThenOwn fp (·.stream) (fun s stream => { s with stream }) benchmarkOptions argv index
    settings

end

end AvProject.Client.Cli
