import Prism.Config
import Prism.Proofs.Fallible

namespace Prism

namespace Number

/-- Whether the number has a place in the order. -/
def IsDefined : Number → Prop
  | .int _ => True
  | .float x => Decimal.valueOf x ≠ .undefined

theorem order_int (number : Number) (n : Int) :
    number.order (.int n) = ((Number.int n).order number).map Ordering.swap := by
  cases number with
  | int m => exact congrArg some Std.OrientedCmp.eq_swap
  | float x => rfl

theorem order_eq_none_iff {number : Number} {n : Int} : (Number.int n).order number = none ↔ ¬ number.IsDefined := by
  cases number with
  | int m => simp [order, IsDefined]
  | float x =>
    rw [order, compareExact, IsDefined, not_not]
    cases Decimal.valueOf x <;> simp

/-- A number lies above another when it has a place in the order and is not at most the other. -/
theorem lt_iff {number : Number} {n : Int} :
    (Number.int n).lt number = true ↔ number.IsDefined ∧ number.le (.int n) = false := by
  rw [lt, le, order_int, ← @not_not number.IsDefined, ← order_eq_none_iff]
  rcases (Number.int n).order number with _ | _ | _ | _ <;> simp

theorem le_iff {number : Number} {n : Int} :
    (Number.int n).le number = true ↔ number.IsDefined ∧ number.lt (.int n) = false := by
  rw [lt, le, order_int, ← @not_not number.IsDefined, ← order_eq_none_iff]
  rcases (Number.int n).order number with _ | _ | _ | _ <;> simp

theorem le_int_iff {m n : Int} : (Number.int m).le (.int n) = true ↔ m ≤ n := by
  rw [le, order, ← Int.isLE_compare]
  cases compare m n <;> simp

end Number

namespace Config

/-- The settings that are numbers with a bound. -/
inductive Setting where
  | maxWorkers | maxRetries | targetTimeout | runTimeout | retryBackoff | cancelGrace | tolerance
  deriving DecidableEq, Repr

namespace Setting

/-- The value of a setting, if it has one. -/
def valueIn (config : Config) : Setting → Option Number
  | .maxWorkers => config.compiler.maxWorkers.map .int
  | .maxRetries => some (.int config.compiler.maxRetries)
  | .targetTimeout => config.compiler.targetTimeout
  | .runTimeout => config.compiler.runTimeout
  | .retryBackoff => some config.compiler.retryBackoff
  | .cancelGrace => some config.compiler.cancelGrace
  | .tolerance => some config.validation.tolerance

/-- The bound of a setting: at least one worker, time that is positive, and all else at least zero. -/
def Admits (value : Number) : Setting → Prop
  | .maxWorkers => (1 : Number).le value = true
  | .targetTimeout | .runTimeout => (0 : Number).lt value = true
  | .maxRetries | .retryBackoff | .cancelGrace | .tolerance => (0 : Number).le value = true

/-- Whether the value of a setting, if it has one, is within the bound. -/
def IsKept (config : Config) (setting : Setting) : Prop := ∀ value ∈ setting.valueIn config, setting.Admits value

/-- Whether the bound of a setting is checked. -/
def isChecked : Setting → Bool
  | .retryBackoff | .cancelGrace => false
  | .maxWorkers | .maxRetries | .targetTimeout | .runTimeout | .tolerance => true

/-- Whether the values of a setting are whole numbers. -/
def isWhole : Setting → Bool
  | .maxWorkers | .maxRetries => true
  | .targetTimeout | .runTimeout | .retryBackoff | .cancelGrace | .tolerance => false

/-- The section of the file that holds a setting, and its name there. -/
def place : Setting → String × String
  | .maxWorkers => ("compiler", "max_workers")
  | .maxRetries => ("compiler", "max_retries")
  | .targetTimeout => ("compiler", "target_timeout")
  | .runTimeout => ("compiler", "run_timeout")
  | .retryBackoff => ("compiler", "retry_backoff")
  | .cancelGrace => ("compiler", "cancel_grace")
  | .tolerance => ("validation", "performance_tolerance")

/-- The value that a document gives to a setting. What is no number gives none. -/
def inDocument (room : Room) (document : Doc) (setting : Setting) : Option Number :=
  let value := Doc.get setting.place.2 (Doc.get setting.place.1 document.entries).entries
  if setting.isWhole then (Config.wholeNumber? room value).map .int else (Config.number? value).toOption.join

/-- The value that the environment gives to a setting. -/
def inEnvironment (room : Room) (environment : String → Option String) : Setting → Option Number
  | .maxWorkers => ((environment Config.workersVariable).bind (Decimal.readInt? room)).map .int
  | .targetTimeout => ((environment Config.timeoutVariable).bind Decimal.readFloat?).map .float
  | .maxRetries | .runTimeout | .retryBackoff | .cancelGrace | .tolerance => none

/-- The value that a setting is given: by the environment, or else by the document. -/
def given (room : Room) (document : Doc) (environment : String → Option String) (setting : Setting) : Option Number :=
  (setting.inEnvironment room environment).or (setting.inDocument room document)

/-- The value of a setting that is not given. -/
def initial (setting : Setting) : Option Number := setting.valueIn { root := {} }

theorem isKept_initial {setting : Setting} : ∀ value ∈ setting.initial, setting.Admits value := by
  cases setting with
  | maxWorkers | targetTimeout | runTimeout => exact fun value none => absurd none (by simp [initial, valueIn])
  | maxRetries | retryBackoff | cancelGrace | tolerance =>
    rintro value same
    obtain rfl := Option.some.inj same
    rw [Admits]
    decide +kernel

/-- Only numbers with a place in the order are within a bound. -/
theorem Admits.isDefined {setting : Setting} {value : Number} (within : setting.Admits value) : value.IsDefined := by
  cases setting with
  | targetTimeout | runTimeout => exact (Number.lt_iff.mp within).1
  | maxWorkers | maxRetries | retryBackoff | cancelGrace | tolerance => exact (Number.le_iff.mp within).1

theorem isDefined_of_isWhole {setting : Setting} (whole : setting.isWhole = true) {config : Config} {value : Number}
    (has : value ∈ setting.valueIn config) : value.IsDefined := by
  cases setting with
  | maxWorkers =>
    obtain ⟨n, _, rfl⟩ := Option.map_eq_some_iff.mp has
    trivial
  | maxRetries =>
    obtain rfl := Option.some.inj has
    trivial
  | targetTimeout | runTimeout | retryBackoff | cancelGrace | tolerance => exact absurd whole (by decide)

end Setting

variable {room : Room} {environment : String → Option String} {config before : Config}

theorem ok_of_guard {ε β : Type} {test : Prop} [Decidable test] {fault : ε} {next : Unit → Except ε β} {result : β}
    (passed : (if test then throw fault >>= next else next ()) = .ok result) : ¬ test ∧ next () = .ok result := by
  by_cases fails : test
  · rw [if_pos fails] at passed
    exact absurd passed (by simp [throw, throwThe, MonadExceptOf.throw, bind, Except.bind])
  · rw [if_neg fails] at passed
    exact ⟨fails, passed⟩

/-- The checks keep every bound but those of the pause and the grace, as far as values are defined. -/
theorem admits_of_check (passed : config.check = .ok ()) {setting : Setting} (checked : setting.isChecked = true)
    {value : Number} (has : value ∈ setting.valueIn config) (defined : value.IsDefined) : setting.Admits value := by
  unfold check at passed
  obtain ⟨workers, passed⟩ := ok_of_guard passed
  obtain ⟨retries, passed⟩ := ok_of_guard passed
  obtain ⟨targetTimeout, passed⟩ := ok_of_guard passed
  obtain ⟨runTimeout, passed⟩ := ok_of_guard passed
  obtain ⟨tolerance, -⟩ := ok_of_guard passed
  cases setting with
  | maxWorkers =>
    obtain ⟨n, given, rfl⟩ := Option.map_eq_some_iff.mp has
    simp only [given, Option.any_some, decide_eq_true_eq, Int.not_lt] at workers
    exact Number.le_int_iff.mpr workers
  | maxRetries =>
    obtain rfl := Option.some.inj has
    exact Number.le_int_iff.mpr (Int.not_lt.mp retries)
  | targetTimeout =>
    rw [show config.compiler.targetTimeout = some value from has] at targetTimeout
    exact Number.lt_iff.mpr ⟨defined, Bool.not_eq_true _ ▸ targetTimeout⟩
  | runTimeout =>
    rw [show config.compiler.runTimeout = some value from has] at runTimeout
    exact Number.lt_iff.mpr ⟨defined, Bool.not_eq_true _ ▸ runTimeout⟩
  | tolerance =>
    obtain rfl := Option.some.inj has
    exact Number.le_iff.mpr ⟨defined, Bool.not_eq_true _ ▸ tolerance⟩
  | retryBackoff | cancelGrace => exact absurd checked (by decide)

/-- A variable that is not empty has to be read, and gives its value; one that is empty is no number. -/
theorem overridden_cases {α : Type} {name : String} {read : String → Option α} {fault : String → ConfigFault}
    {set : α → Config → Config} (empty : read "" = none)
    (given : overridden name read fault set environment before = .ok config) :
    ((environment name).bind read = none ∧ config = before) ∨
      ∃ value, (environment name).bind read = some value ∧ config = set value before := by
  rw [overridden] at given
  cases here : environment name with
  | none =>
    rw [here] at given
    exact .inl ⟨rfl, (Except.ok.inj given).symm⟩
  | some text =>
    by_cases blank : text = ""
    · subst blank
      rw [here] at given
      exact .inl ⟨empty, (Except.ok.inj given).symm⟩
    · rw [here, Option.filter_some, if_pos (by simpa using blank)] at given
      cases value : read text with
      | none => simp [value] at given
      | some value =>
        simp only [value] at given
        exact .inr ⟨_, value, (Except.ok.inj given).symm⟩

/-- The environment comes before what was there, and all is checked after. -/
theorem valueIn_applied (done : applied room environment before = .ok config) :
    config.check = .ok () ∧
      ∀ setting : Setting,
        setting.valueIn config = (setting.inEnvironment room environment).or (setting.valueIn before) := by
  obtain ⟨between, workers, done⟩ := exists_of_bind_eq_ok done
  obtain ⟨after, timeout, done⟩ := exists_of_bind_eq_ok done
  obtain ⟨_, checked, done⟩ := exists_of_bind_eq_ok done
  obtain rfl := Except.ok.inj done
  refine ⟨checked, fun setting => ?_⟩
  rcases overridden_cases rfl workers with ⟨own, rfl⟩ | ⟨count, own, rfl⟩ <;>
    rcases overridden_cases rfl timeout with ⟨limit, rfl⟩ | ⟨seconds, limit, rfl⟩ <;>
    cases setting <;> simp [Setting.inEnvironment, Setting.valueIn, own, limit]

theorem inDocument_eq (document : Doc) (setting : Setting) {number : Option Number} (fraction : setting.isWhole = false)
    (read : number? (Doc.get setting.place.2 (Doc.get setting.place.1 document.entries).entries) = .ok number) :
    setting.inDocument room document = number := by
  rw [Setting.inDocument, if_neg (by simp [fraction]), read]
  rfl

theorem inDocument_of_isWhole (document : Doc) (setting : Setting) (whole : setting.isWhole = true) :
    setting.inDocument room document =
      (wholeNumber? room (Doc.get setting.place.2 (Doc.get setting.place.1 document.entries).entries)).map .int :=
  if_pos whole

theorem some_getD {α β : Type} (given : Option α) (f : α → β) (otherwise : α) :
    some (f (given.getD otherwise)) = (given.map f).or (some (f otherwise)) := by
  cases given <;> rfl

/-- The document comes before what a setting is without it. -/
theorem valueIn_ofDoc {root : Location} {entries : List (Scalar × Doc)}
    (read : ofDoc room root (.map entries) = .ok config) (setting : Setting) :
    setting.valueIn config = (setting.inDocument room (.map entries)).or setting.initial := by
  obtain ⟨compiler, first, read⟩ := exists_of_bind_eq_ok read
  obtain ⟨validation, second, read⟩ := exists_of_bind_eq_ok read
  obtain ⟨output, -, read⟩ := exists_of_bind_eq_ok read
  obtain ⟨_, -, read⟩ := exists_of_bind_eq_ok read
  obtain rfl := Except.ok.inj read
  obtain ⟨_, -, first⟩ := exists_of_bind_eq_ok first
  obtain ⟨backoff, backoffRead, first⟩ := exists_of_bind_eq_ok first
  obtain ⟨targetTimeout, targetRead, first⟩ := exists_of_bind_eq_ok first
  obtain ⟨runTimeout, runRead, first⟩ := exists_of_bind_eq_ok first
  obtain ⟨grace, graceRead, first⟩ := exists_of_bind_eq_ok first
  obtain rfl := Except.ok.inj first
  obtain ⟨_, -, second⟩ := exists_of_bind_eq_ok second
  obtain ⟨tolerance, toleranceRead, second⟩ := exists_of_bind_eq_ok second
  obtain rfl := Except.ok.inj second
  cases setting with
  | maxWorkers => exact Option.or_none.symm
  | maxRetries =>
    rw [inDocument_of_isWhole (.map entries) .maxRetries rfl]
    exact some_getD (wholeNumber? room _) Number.int _
  | targetTimeout =>
    rw [inDocument_eq (.map entries) .targetTimeout rfl targetRead]
    exact Option.or_none.symm
  | runTimeout =>
    rw [inDocument_eq (.map entries) .runTimeout rfl runRead]
    exact Option.or_none.symm
  | retryBackoff =>
    rw [inDocument_eq (.map entries) .retryBackoff rfl backoffRead]
    exact (some_getD backoff id _).trans (by rw [Option.map_id]; rfl)
  | cancelGrace =>
    rw [inDocument_eq (.map entries) .cancelGrace rfl graceRead]
    exact (some_getD grace id _).trans (by rw [Option.map_id]; rfl)
  | tolerance =>
    rw [inDocument_eq (.map entries) .tolerance rfl toleranceRead]
    exact (some_getD tolerance id _).trans (by rw [Option.map_id]; rfl)

theorem valueIn_ofDocument {root : Location} {document : Doc}
    (read : ofDocument room root document environment = .ok config) :
    config.check = .ok () ∧
      ∀ setting : Setting, setting.valueIn config = (setting.given room document environment).or setting.initial := by
  obtain ⟨before, first, second⟩ := exists_of_bind_eq_ok read
  obtain ⟨checked, values⟩ := valueIn_applied second
  have given (setting : Setting) : setting.valueIn before = (setting.inDocument room document).or setting.initial := by
    by_cases null : document.isNull = true
    · have none : document = .null := by
        unfold Doc.isNull at null
        split at null
        · rfl
        · exact absurd null (by decide)
      rw [if_pos null] at first
      rw [valueIn_ofDoc first, none]
      rfl
    · rw [if_neg null] at first
      cases document with
      | map entries => exact valueIn_ofDoc first setting
      | scalar | list | tuple | set | loop => exact absurd first (by simp [ofDoc])
  exact ⟨checked, fun setting => by rw [values, given, Setting.given, Option.or_assoc]⟩

/-- The document of a settings file, null when there is none. -/
def documentAt (room : Room) (root : Location) (name : String) (stored : Stored) : Doc :=
  ((stored.text (root.child name).text).mapError ConfigFault.reading >>= documentOf room name).toOption.getD .null

theorem ofDoc_nil (room : Room) (root : Location) : ofDoc room root (.map []) = .ok { root } := by
  have compiler : compilerOf room [] = .ok {} := rfl
  have validation : validationOf room [] = .ok {} := rfl
  have format : Text.lower ({} : OutputSettings).format = ({} : OutputSettings).format := by decide +kernel
  have output : outputOf room root [] = .ok {} :=
    congrArg (fun format => Except.ok (OutputSettings.mk none none format)) format
  simp only [ofDoc, Doc.get, Doc.lookup, Option.getD_none, Doc.entries, compiler, validation, output, bind, Except.bind]
  rfl

theorem ofDocument_null (root : Location) :
    ofDocument room root .null environment = applied room environment { root } := by
  have null : Doc.null.isNull = true := rfl
  rw [ofDocument, if_pos null, ofDoc_nil]
  rfl

/-- Without a file the settings are those of a null document. -/
theorem ofDocument_of_load {root : Location} {name : String} {stored : Stored}
    (loaded : load room root name stored environment = .ok config) :
    ofDocument room root (documentAt room root name stored) environment = .ok config := by
  cases stored with
  | absent | blocked => exact (ofDocument_null root).trans loaded
  | directory | overlong | nullName | octets =>
    obtain ⟨text, read, loaded⟩ := exists_of_bind_eq_ok loaded
    obtain ⟨document, held, loaded⟩ := exists_of_bind_eq_ok loaded
    have next (read : String → Except ConfigFault Doc) : (Except.ok text >>= read) = read text := rfl
    rw [documentAt, read, next, held]
    exact loaded

/-- Every setting that is loaded has the value that the environment gives it, or else the file, or else its initial
one. A whole number is always within its bound. Any other value is within it exactly when none is given, or one that
is defined where the bound is checked, and one of at least zero where it is not. -/
theorem load_bounds_iff {root : Location} {name : String} {stored : Stored}
    (loaded : load room root name stored environment = .ok config) (setting : Setting) :
    setting.valueIn config = (setting.given room (documentAt room root name stored) environment).or setting.initial ∧
      (setting.isWhole = true → setting.IsKept config) ∧
      (setting.IsKept config ↔ ∀ value ∈ setting.given room (documentAt room root name stored) environment,
        if setting.isChecked then value.IsDefined else (0 : Number).le value = true) := by
  obtain ⟨checked, values⟩ := valueIn_ofDocument (ofDocument_of_load loaded)
  have here := values setting
  generalize setting.given room (documentAt room root name stored) environment = given at here
  refine ⟨here, fun whole value has => ?_, ?_⟩
  · have counted : setting.isChecked = true := by cases setting <;> first | rfl | exact absurd whole (by decide)
    exact admits_of_check checked counted has (Setting.isDefined_of_isWhole whole has)
  · cases given with
    | none => exact iff_of_true (fun value has => Setting.isKept_initial value (here.symm.trans has)) (by simp)
    | some value =>
      have only : setting.IsKept config ↔ setting.Admits value := by
        rw [Setting.IsKept, here]
        simp
      simp only [only, Option.mem_some_iff, forall_eq']
      by_cases counted : setting.isChecked = true
      · rw [if_pos counted]
        exact ⟨Setting.Admits.isDefined, admits_of_check checked counted here⟩
      · rw [if_neg counted]
        cases setting <;> first | rfl | exact absurd rfl counted

/-- Four workers, and time for each target that is written with blanks around it. -/
def busyEnvironment (name : String) : Option String :=
  [(workersVariable, "4"), (timeoutVariable, " 1.5 ")].lookup name

theorem load_bounds_busyEnvironment :
    ∃ config, load {} {} fileName .absent busyEnvironment = .ok config ∧
      Setting.targetTimeout.valueIn config = some (.float 1.5) ∧ ∀ setting : Setting, setting.IsKept config := by
  have opens : (load {} {} fileName .absent busyEnvironment).isOk = true := by decide +kernel
  have workers : Setting.maxWorkers.given {} (documentAt {} {} fileName .absent) busyEnvironment = some (.int 4) := rfl
  have timeout : Setting.targetTimeout.given {} (documentAt {} {} fileName .absent) busyEnvironment =
    some (.float 1.5) := rfl
  have positive : Number.IsDefined (.float 1.5) := by
    rw [Number.IsDefined]
    decide +kernel
  cases loaded : load {} {} fileName .absent busyEnvironment with
  | error fault => simp [loaded, Except.isOk, Except.toBool] at opens
  | ok config =>
    refine ⟨config, rfl, ?_, fun setting => (load_bounds_iff loaded setting).2.2.mpr fun value given => ?_⟩
    · rw [(load_bounds_iff loaded .targetTimeout).1, timeout]
      rfl
    · cases setting with
      | maxWorkers =>
        obtain rfl := Option.some.inj (workers.symm.trans given)
        trivial
      | targetTimeout =>
        obtain rfl := Option.some.inj (timeout.symm.trans given)
        exact positive
      | maxRetries | runTimeout | retryBackoff | cancelGrace | tolerance =>
        exact absurd (show none = some value from given) (by simp)

/-- A negative pause is not checked, and the undefined value passes the check of a time. -/
theorem load_out_of_bounds :
    (∃ config, ofDocument {} {} (.map [(.text "compiler", .map [(.text "retry_backoff", .float (-1.5))])])
      (fun _ => none) = .ok config ∧ ¬ Setting.retryBackoff.IsKept config) ∧
    ∃ config,
      load {} {} fileName .absent (fun name => if name = timeoutVariable then some "nan" else none) = .ok config ∧
      ¬ Setting.targetTimeout.IsKept config := by
  refine ⟨⟨_, rfl, fun kept => ?_⟩, _, rfl, fun kept => ?_⟩
  · have admitted : (0 : Number).le (.float (-1.5)) = true := kept _ rfl
    exact absurd admitted (by decide +kernel)
  · have admitted : (0 : Number).lt (.float (0.0 / 0.0)) = true := kept _ rfl
    exact absurd admitted (by decide +kernel)

end Config

end Prism
