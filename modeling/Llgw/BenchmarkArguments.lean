import Llgw.Foundation.Decimal
import Llgw.Foundation.Delimiters
import Llgw.Messages
import Mathlib.Data.List.Induction

/-!
# The command line of the path comparison

`ParseSizeT` and `ParseArgs` of `bench_path_comparison.cpp`.  A command line
is accepted when it is a sequence of flags with values that they can store,
and every configuration the benchmark can run is that of some command line.
-/

namespace Llgw.BenchmarkArguments

open Llgw.Foundation
open Llgw.Foundation.Delimiters
open Llgw.Messages

/-! ## Numbers -/

/-- The loop of `ParseSizeT`, with the wrap-around of `std::size_t`. -/
def sizeLoop : Nat → ByteString → Option Nat
  | parsed, [] => some parsed
  | parsed, byte :: rest =>
      if byte < 48 ∨ 57 < byte then none
      else sizeLoop ((parsed * 10 + (byte.toNat - 48)) % UInt64.size) rest

/-- `ParseSizeT`. -/
def parseSizeT (value : ByteString) : Option Nat :=
  if value = [] then none
  else (sizeLoop 0 value).filter fun parsed => parsed ≠ 0

/-! ## Flags -/

/-- `kPipelineCapacity`. -/
def kPipelineCapacity : ℕ+ := 4096

structure BenchmarkConfig where
  stabilizationIterations : Nat := 100000
  warmupIterations : Nat := 6400
  measuredIterations : Nat := 64000
  trials : Nat := 5
  batchSize : Nat := 64
  workload : ByteString := text "mixed"
  csvPath : Option ByteString := none
deriving DecidableEq

/-- The flags that take a value. -/
inductive Flag where
  | stabilizationIterations
  | warmup
  | iterations
  | trials
  | batchSize
  | workload
  | csv
deriving DecidableEq

/-- The flags in the order in which `ParseArgs` compares them. -/
def flags : List Flag :=
  [.stabilizationIterations, .warmup, .iterations, .trials, .batchSize,
    .workload, .csv]

/-- The workloads of the benchmark. -/
def workloads : List ByteString :=
  [text "no-orders", text "mixed", text "all-orders"]

namespace Flag

def name : Flag → ByteString
  | .stabilizationIterations => text "--stabilization-iterations"
  | .warmup => text "--warmup"
  | .iterations => text "--iterations"
  | .trials => text "--trials"
  | .batchSize => text "--batch-size"
  | .workload => text "--workload"
  | .csv => text "--csv"

/-- The configuration with the value of a flag, if it is valid. -/
def store (config : BenchmarkConfig) (flag : Flag) (value : ByteString) :
    Option BenchmarkConfig :=
  match flag with
  | .stabilizationIterations =>
      (parseSizeT value).map fun parsed =>
        { config with stabilizationIterations := parsed }
  | .warmup =>
      (parseSizeT value).map fun parsed =>
        { config with warmupIterations := parsed }
  | .iterations =>
      (parseSizeT value).map fun parsed =>
        { config with measuredIterations := parsed }
  | .trials =>
      (parseSizeT value).map fun parsed => { config with trials := parsed }
  | .batchSize =>
      (parseSizeT value).map fun parsed =>
        { config with batchSize := parsed }
  | .workload =>
      if value ∈ workloads then some { config with workload := value }
      else none
  | .csv =>
      if value = [] then none else some { config with csvPath := some value }

/-- What is printed for a value that a flag does not store. -/
def invalidText : Flag → ByteString
  | .workload =>
      text
        "Invalid --workload value. Expected no-orders, mixed, or all-orders.\n"
  | flag => text "Invalid " ++ flag.name ++ text " value\n"

/-- What is printed for a flag at the end of the command line. -/
def missingText (flag : Flag) : ByteString :=
  text "Missing value for " ++ flag.name ++ text "\n" ++
    if flag = .workload then [] else flag.invalidText

end Flag

/-! ## The command line -/

inductive ArgsOutcome where
  | accepted (config : BenchmarkConfig)
  /-- `ParseArgs` returns false and has printed this. -/
  | refused (errors : ByteString)
  /-- The program prints its usage and exits with zero. -/
  | help
deriving DecidableEq

/-- The loop of `ParseArgs`. -/
def argsLoop : BenchmarkConfig → List ByteString → ArgsOutcome
  | config, [] => .accepted config
  | config, arg :: rest =>
      match valueOf flags Flag.name arg with
      | some flag =>
          match rest with
          | [] => .refused flag.missingText
          | value :: rest =>
              match flag.store config value with
              | none => .refused flag.invalidText
              | some config => argsLoop config rest
      | none =>
          if arg = text "--help" ∨ arg = text "-h" then .help
          else .refused (text "Unknown argument: " ++ arg ++ text "\n")

/-- `ParseArgs`, without the name of the program. -/
def parseArgs (config : BenchmarkConfig) (args : List ByteString) :
    ArgsOutcome :=
  match argsLoop config args with
  | .accepted config =>
      if kPipelineCapacity < config.batchSize then
        .refused (text "Batch size exceeds pipeline capacity of 4096\n")
      else .accepted config
  | outcome => outcome

/-- A flag with its value. -/
abbrev Setting := Flag × ByteString

/-- Settings as they stand on a command line. -/
def commandLine (settings : List Setting) : List ByteString :=
  settings.flatMap fun setting => [setting.1.name, setting.2]

/-- The configuration after these settings, if all are valid. -/
def configured (config : BenchmarkConfig) (settings : List Setting) :
    Option BenchmarkConfig :=
  settings.foldlM (fun config setting => setting.1.store config setting.2)
    config

/-! ## What numbers are read -/

/-- An ASCII digit. -/
def IsDigit (byte : UInt8) : Prop :=
  48 ≤ byte ∧ byte ≤ 57

theorem isDigit_iff (byte : UInt8) :
    IsDigit byte ↔ ¬ (byte < 48 ∨ 57 < byte) := by
  rw [IsDigit, not_or, UInt8.not_lt, UInt8.not_lt]

/-- Digits are read modulo the size of `std::size_t`. -/
theorem sizeLoop_of_digits {value : ByteString}
    (digits : ∀ byte ∈ value, IsDigit byte) (spelled : Nat) :
    sizeLoop (spelled % UInt64.size) value =
      some
        (value.foldl
            (fun number byte => 10 * number + (byte.toNat - 48)) spelled %
          UInt64.size) := by
  induction value generalizing spelled with
  | nil => rfl
  | cons byte value induction =>
      rw [List.forall_mem_cons] at digits
      have next :
          (spelled % UInt64.size * 10 + (byte.toNat - 48)) % UInt64.size =
            (10 * spelled + (byte.toNat - 48)) % UInt64.size := by
        rw [Nat.add_mod, Nat.mod_mul_mod, ← Nat.add_mod, Nat.mul_comm]
      rw [sizeLoop, if_neg ((isDigit_iff byte).mp digits.1), next,
        induction digits.2, List.foldl_cons]

theorem digits_of_sizeLoop {value : ByteString} {parsed result : Nat}
    (read : sizeLoop parsed value = some result) :
    ∀ byte ∈ value, IsDigit byte := by
  induction value generalizing parsed with
  | nil => exact List.forall_mem_nil _
  | cons byte value induction =>
      rw [sizeLoop] at read
      split_ifs at read with other
      rw [List.forall_mem_cons]
      exact ⟨(isDigit_iff byte).mpr other, induction read⟩

/-- A value is read when it spells a number that does not wrap to zero. -/
theorem parseSizeT_eq_some_iff (value : ByteString) (parsed : Nat) :
    parseSizeT value = some parsed ↔
      value ≠ [] ∧ (∀ byte ∈ value, IsDigit byte) ∧
        parsed = Decimal.value value % UInt64.size ∧ parsed ≠ 0 := by
  have spelled (digits : ∀ byte ∈ value, IsDigit byte) :
      sizeLoop 0 value = some (Decimal.value value % UInt64.size) :=
    sizeLoop_of_digits digits 0
  rw [parseSizeT]
  constructor
  · intro read
    split_ifs at read with empty
    rw [Option.filter_eq_some_iff, decide_eq_true_eq] at read
    have digits := digits_of_sizeLoop read.1
    rw [spelled digits, Option.some.injEq] at read
    exact ⟨empty, digits, read.1.symm, read.2⟩
  · rintro ⟨filled, digits, rfl, positive⟩
    rw [if_neg filled, spelled digits, Option.filter_eq_some_iff]
    exact ⟨rfl, decide_eq_true positive⟩

/-- A value that spells a number which does not wrap to zero. -/
def SpellsSize (value : ByteString) : Prop :=
  value ≠ [] ∧ (∀ byte ∈ value, IsDigit byte) ∧
    Decimal.value value % UInt64.size ≠ 0

/-- What is made of a number is made of what the digits spell. -/
theorem map_parseSizeT_iff {Result : Type} (value : ByteString)
    (make : Nat → Result) (result : Result) :
    (parseSizeT value).map make = some result ↔
      SpellsSize value ∧
        result = make (Decimal.value value % UInt64.size) := by
  rw [Option.map_eq_some_iff]
  constructor
  · rintro ⟨parsed, read, rfl⟩
    rcases (parseSizeT_eq_some_iff value parsed).mp read with
      ⟨filled, digits, rfl, positive⟩
    exact ⟨⟨filled, digits, positive⟩, rfl⟩
  · rintro ⟨⟨filled, digits, positive⟩, rfl⟩
    refine ⟨_, ?_, rfl⟩
    rw [parseSizeT_eq_some_iff]
    exact ⟨filled, digits, rfl, positive⟩

/-- A positive number is read from its numeral. -/
theorem parseSizeT_numeral {number : Nat} (positive : 0 < number)
    (small : number < UInt64.size) :
    parseSizeT (Decimal.numeral number) = some number := by
  rw [parseSizeT_eq_some_iff, Decimal.value_numeral,
    Nat.mod_eq_of_lt small]
  exact
    ⟨Decimal.numeral_ne_nil number, fun _ => Decimal.mem_numeral, rfl,
      positive.ne'⟩

/-! ## What command lines are accepted -/

theorem mem_flags (flag : Flag) : flag ∈ flags := by
  cases flag <;> decide

theorem Flag.name_injective : Function.Injective Flag.name :=
  injective_of_table mem_flags (by decide +kernel)

theorem flag_name (flag : Flag) :
    valueOf flags Flag.name flag.name = some flag :=
  valueOf_name Flag.name_injective (mem_flags flag)

theorem name_of_flag {arg : ByteString} {flag : Flag}
    (found : valueOf flags Flag.name arg = some flag) : arg = flag.name := by
  rw [valueOf] at found
  have named := List.find?_some found
  exact (of_decide_eq_true named).symm

/-- The loop accepts exactly sequences of valid settings. -/
theorem argsLoop_accepted_iff (config result : BenchmarkConfig)
    (args : List ByteString) :
    argsLoop config args = .accepted result ↔
      ∃ settings,
        args = commandLine settings ∧
          configured config settings = some result := by
  constructor
  · intro accepted
    fun_induction argsLoop config args with
    | case1 config =>
        cases accepted
        exact ⟨[], rfl, rfl⟩
    | case2 | case3 => contradiction
    | case4 config arg flag found value rest next stored induction =>
        rcases induction accepted with ⟨settings, rfl, stores⟩
        refine ⟨(flag, value) :: settings, ?_, ?_⟩
        · rw [name_of_flag found]
          rfl
        · rw [configured, List.foldlM_cons, stored]
          exact stores
    | case5 | case6 => contradiction
  · rintro ⟨settings, rfl, stores⟩
    induction settings generalizing config with
    | nil =>
        cases stores
        rfl
    | cons setting settings induction =>
        rw [configured, List.foldlM_cons] at stores
        rcases Option.bind_eq_some_iff.mp stores with ⟨next, stored, later⟩
        rw [commandLine, List.flatMap_cons, List.cons_append,
          List.cons_append, List.nil_append, argsLoop]
        simp only [flag_name, stored]
        exact induction next later

/-! ## What settings ask for -/

/-- A value that a flag can store. -/
def ValidValue (flag : Flag) (value : ByteString) : Prop :=
  match flag with
  | .workload => value ∈ workloads
  | .csv => value ≠ []
  | _ => SpellsSize value

/-- The value that a flag was given last. -/
def lastValue (flag : Flag) (settings : List Setting) :
    Option ByteString :=
  ((settings.filter fun setting => setting.1 = flag).map
    Prod.snd).getLast?

/-- The number that was asked for last. -/
def lastSize (flag : Flag) (settings : List Setting) (default : Nat) :
    Nat :=
  match lastValue flag settings with
  | none => default
  | some value => Decimal.value value % UInt64.size

/-- The configuration that settings ask for. -/
def askedFor (settings : List Setting) : BenchmarkConfig where
  stabilizationIterations :=
    lastSize .stabilizationIterations settings 100000
  warmupIterations := lastSize .warmup settings 6400
  measuredIterations := lastSize .iterations settings 64000
  trials := lastSize .trials settings 5
  batchSize := lastSize .batchSize settings 64
  workload := (lastValue .workload settings).getD (text "mixed")
  csvPath := lastValue .csv settings

theorem lastValue_concat (flag other : Flag) (settings : List Setting)
    (value : ByteString) :
    lastValue flag (settings ++ [(other, value)]) =
      if other = flag then some value else lastValue flag settings := by
  unfold lastValue
  by_cases same : other = flag <;> simp [same]

/-- The value of a setting is that of the last one or of an earlier one. -/
theorem mem_of_lastValue {flag : Flag} {settings : List Setting}
    {value : ByteString} (last : lastValue flag settings = some value) :
    (flag, value) ∈ settings := by
  rcases List.mem_map.mp (List.mem_of_getLast? last) with
    ⟨⟨other, _⟩, member, rfl⟩
  rw [List.mem_filter, decide_eq_true_eq] at member
  rcases member with ⟨listed, rfl⟩
  exact listed

/-- The step lemma: a flag stores its valid values over earlier ones. -/
theorem store_askedFor_iff (settings : List Setting) (flag : Flag)
    (value : ByteString) (next : BenchmarkConfig) :
    flag.store (askedFor settings) value = some next ↔
      ValidValue flag value ∧
        next = askedFor (settings ++ [(flag, value)]) := by
  cases flag with
  | workload | csv =>
      simp [Flag.store, ValidValue, askedFor, lastSize, lastValue_concat,
        eq_comm]
  | stabilizationIterations | warmup | iterations | trials | batchSize =>
      rw [Flag.store, map_parseSizeT_iff]
      simp [ValidValue, askedFor, lastSize, lastValue_concat]

/-- The run lemma: settings are stored when they are all valid. -/
theorem configured_iff (settings : List Setting)
    (result : BenchmarkConfig) :
    configured {} settings = some result ↔
      (∀ setting ∈ settings, ValidValue setting.1 setting.2) ∧
        result = askedFor settings := by
  induction settings using List.reverseRecOn generalizing result with
  | nil => simp [configured, askedFor, lastSize, lastValue, eq_comm]
  | append_singleton settings last induction =>
      have earlier (config : BenchmarkConfig) := induction config
      rw [configured] at earlier
      rw [configured, List.foldlM_append, Option.bind_eq_bind,
        Option.bind_eq_some_iff, List.forall_mem_append,
        List.forall_mem_singleton]
      simp only [earlier, List.foldlM_cons, List.foldlM_nil,
        Option.bind_eq_bind, Option.pure_def, Option.bind_fun_some]
      constructor
      · rintro ⟨config, ⟨valid, rfl⟩, stored⟩
        rw [store_askedFor_iff] at stored
        exact ⟨⟨valid, stored.1⟩, stored.2⟩
      · rintro ⟨⟨valid, last⟩, rfl⟩
        refine ⟨_, ⟨valid, rfl⟩, ?_⟩
        rw [store_askedFor_iff]
        exact ⟨last, rfl⟩

/-! ## What configurations can be asked for -/

/-- A number that `ParseSizeT` can deliver. -/
def IsSize (number : Nat) : Prop :=
  0 < number ∧ number < UInt64.size

instance (number : Nat) : Decidable (IsSize number) :=
  inferInstanceAs (Decidable (_ ∧ _))

theorem isSize_of_parseSizeT {value : ByteString} {parsed : Nat}
    (read : parseSizeT value = some parsed) : IsSize parsed := by
  rw [parseSizeT_eq_some_iff] at read
  rcases read with ⟨_, _, rfl, positive⟩
  exact ⟨Nat.pos_of_ne_zero positive, Nat.mod_lt _ (by decide)⟩

/-- A configuration whose values are all valid. -/
structure Valid (config : BenchmarkConfig) : Prop where
  stabilization : IsSize config.stabilizationIterations
  warmup : IsSize config.warmupIterations
  measured : IsSize config.measuredIterations
  trials : IsSize config.trials
  batchSize : IsSize config.batchSize
  workload : config.workload ∈ workloads
  csvPath : config.csvPath ≠ some []

theorem Valid.default : Valid {} where
  stabilization := by decide
  warmup := by decide
  measured := by decide
  trials := by decide
  batchSize := by decide
  workload := by decide
  csvPath := by decide

/-- The step lemma: a flag stores only valid values. -/
theorem Valid.store {config next : BenchmarkConfig} (valid : Valid config)
    {flag : Flag} {value : ByteString}
    (stored : flag.store config value = some next) : Valid next := by
  cases flag with
  | stabilizationIterations =>
      rcases Option.map_eq_some_iff.mp stored with ⟨parsed, read, rfl⟩
      exact { valid with stabilization := isSize_of_parseSizeT read }
  | warmup =>
      rcases Option.map_eq_some_iff.mp stored with ⟨parsed, read, rfl⟩
      exact { valid with warmup := isSize_of_parseSizeT read }
  | iterations =>
      rcases Option.map_eq_some_iff.mp stored with ⟨parsed, read, rfl⟩
      exact { valid with measured := isSize_of_parseSizeT read }
  | trials =>
      rcases Option.map_eq_some_iff.mp stored with ⟨parsed, read, rfl⟩
      exact { valid with trials := isSize_of_parseSizeT read }
  | batchSize =>
      rcases Option.map_eq_some_iff.mp stored with ⟨parsed, read, rfl⟩
      exact { valid with batchSize := isSize_of_parseSizeT read }
  | workload =>
      rw [Flag.store] at stored
      split_ifs at stored with known
      rcases stored with ⟨rfl⟩
      exact { valid with workload := known }
  | csv =>
      rw [Flag.store] at stored
      split_ifs at stored with empty
      rcases stored with ⟨rfl⟩
      exact { valid with csvPath := fun path => empty (Option.some.inj path) }

/-- The run lemma: so do sequences of settings. -/
theorem Valid.configured {config result : BenchmarkConfig}
    (valid : Valid config) {settings : List Setting}
    (stores : configured config settings = some result) : Valid result := by
  induction settings generalizing config with
  | nil =>
      cases stores
      exact valid
  | cons setting settings induction =>
      rw [BenchmarkArguments.configured, List.foldlM_cons] at stores
      rcases Option.bind_eq_some_iff.mp stores with ⟨next, stored, later⟩
      exact induction (valid.store stored) later

/-- Settings that ask for a configuration. -/
def settingsOf (config : BenchmarkConfig) : List Setting :=
  [(.stabilizationIterations,
      Decimal.numeral config.stabilizationIterations),
    (.warmup, Decimal.numeral config.warmupIterations),
    (.iterations, Decimal.numeral config.measuredIterations),
    (.trials, Decimal.numeral config.trials),
    (.batchSize, Decimal.numeral config.batchSize),
    (.workload, config.workload)] ++
    config.csvPath.toList.map (Flag.csv, ·)

/-- A valid configuration is stored from its settings. -/
theorem configured_settingsOf {config : BenchmarkConfig}
    (valid : Valid config) :
    configured {} (settingsOf config) = some config := by
  have read {number : Nat} (size : IsSize number) :=
    parseSizeT_numeral size.1 size.2
  rw [settingsOf, configured, List.foldlM_append]
  simp only [List.foldlM_cons, List.foldlM_nil, Flag.store,
    read valid.stabilization, read valid.warmup, read valid.measured,
    read valid.trials, read valid.batchSize, if_pos valid.workload,
    Option.map_some, Option.bind_eq_bind, Option.bind_some]
  rcases config with ⟨_, _, _, _, _, _, _ | path⟩
  · rfl
  · have filled : path ≠ [] := fun empty => valid.csvPath (empty ▸ rfl)
    simp [filled]

theorem parseArgs_accepted_iff (config result : BenchmarkConfig)
    (args : List ByteString) :
    parseArgs config args = .accepted result ↔
      argsLoop config args = .accepted result ∧
        result.batchSize ≤ kPipelineCapacity := by
  rw [parseArgs, ← Nat.not_lt]
  cases argsLoop config args with
  | accepted found =>
      simp only [ArgsOutcome.accepted.injEq]
      by_cases large : kPipelineCapacity < found.batchSize
      · rw [if_pos large]
        constructor
        · intro accepted
          contradiction
        · rintro ⟨rfl, fits⟩
          exact absurd large fits
      · rw [if_neg large, ArgsOutcome.accepted.injEq]
        constructor
        · rintro rfl
          exact ⟨rfl, large⟩
        · exact And.left
  | refused errors => simp only [reduceCtorEq, false_and]
  | help => simp only [reduceCtorEq, false_and]

/-- A configuration that is accepted is valid and fits the pipeline. -/
theorem valid_of_accepted {args : List ByteString}
    {config : BenchmarkConfig}
    (accepted : parseArgs {} args = .accepted config) :
    Valid config ∧ config.batchSize ≤ kPipelineCapacity := by
  rw [parseArgs_accepted_iff, argsLoop_accepted_iff] at accepted
  rcases accepted with ⟨⟨settings, _, stores⟩, fits⟩
  exact ⟨Valid.default.configured stores, fits⟩

/-- The bytes of an argument, which ends at its first zero. -/
def IsCString (content : ByteString) : Prop :=
  (0 : UInt8) ∉ content

instance (content : ByteString) : Decidable (IsCString content) :=
  inferInstanceAs (Decidable (_ ∉ _))

theorem mem_commandLine {settings : List Setting} {setting : Setting}
    (member : setting ∈ settings) :
    setting.1.name ∈ commandLine settings ∧
      setting.2 ∈ commandLine settings := by
  constructor <;>
    exact List.mem_flatMap.mpr ⟨setting, member, by simp⟩

theorem numeral_isCString (number : Nat) :
    IsCString (Decimal.numeral number) := by
  intro member
  exact absurd (Decimal.mem_numeral member).1 (by decide)

theorem name_isCString (flag : Flag) : IsCString flag.name := by
  cases flag <;> decide

theorem workload_isCString :
    ∀ workload ∈ workloads, IsCString workload := by
  decide

/-- A valid configuration can be asked for on a command line. -/
theorem settingsOf_isCString {config : BenchmarkConfig}
    (valid : Valid config)
    (path : ∀ path ∈ config.csvPath, IsCString path) :
    ∀ arg ∈ commandLine (settingsOf config), IsCString arg := by
  have values : ∀ setting ∈ settingsOf config, IsCString setting.2 := by
    simp only [settingsOf, List.forall_mem_append, List.forall_mem_cons,
      List.forall_mem_map, Option.mem_toList]
    exact
      ⟨⟨numeral_isCString _, numeral_isCString _, numeral_isCString _,
          numeral_isCString _, numeral_isCString _,
          workload_isCString _ valid.workload, List.forall_mem_nil _⟩,
        path⟩
  intro arg member
  rcases List.mem_flatMap.mp member with ⟨setting, listed, spelled⟩
  simp only [List.mem_cons, List.not_mem_nil, or_false] at spelled
  rcases spelled with rfl | rfl
  · exact name_isCString _
  · exact values setting listed

/--
`ParseArgs` accepts exactly the sequences of flags with valid values whose
batch size fits the pipeline, in any order and with repetitions.  Of every flag
the last value is kept, and numbers are read modulo the size of `std::size_t`.
The configurations that the arguments of a program can deliver are exactly the
valid ones: each of them has a command line.
-/
theorem args_accepted_iff (result : BenchmarkConfig) :
    (∀ args,
        parseArgs {} args = .accepted result ↔
          (∃ settings,
            args = commandLine settings ∧
              (∀ setting ∈ settings, ValidValue setting.1 setting.2) ∧
              result = askedFor settings) ∧
            result.batchSize ≤ kPipelineCapacity) ∧
      ((∃ args,
          (∀ arg ∈ args, IsCString arg) ∧
            parseArgs {} args = .accepted result) ↔
        Valid result ∧ (∀ path ∈ result.csvPath, IsCString path) ∧
          result.batchSize ≤ kPipelineCapacity) := by
  have accepts (args : List ByteString) :
      parseArgs {} args = .accepted result ↔
        (∃ settings,
          args = commandLine settings ∧
            (∀ setting ∈ settings, ValidValue setting.1 setting.2) ∧
            result = askedFor settings) ∧
          result.batchSize ≤ kPipelineCapacity := by
    simp only [parseArgs_accepted_iff, argsLoop_accepted_iff,
      configured_iff]
  refine ⟨accepts, ?_⟩
  constructor
  · rintro ⟨args, spelled, accepted⟩
    rcases valid_of_accepted accepted with ⟨valid, fits⟩
    rcases (accepts args).mp accepted with ⟨⟨settings, rfl, _, rfl⟩, _⟩
    refine ⟨valid, ?_, fits⟩
    intro path given
    exact spelled path (mem_commandLine (mem_of_lastValue given)).2
  · rintro ⟨valid, path, fits⟩
    refine
      ⟨commandLine (settingsOf result), settingsOf_isCString valid path,
        ?_⟩
    rw [parseArgs_accepted_iff, argsLoop_accepted_iff]
    exact ⟨⟨settingsOf result, rfl, configured_settingsOf valid⟩, fits⟩

end Llgw.BenchmarkArguments
