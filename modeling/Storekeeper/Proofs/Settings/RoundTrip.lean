import Mathlib.Data.Finset.Insert
import Storekeeper.Proofs.Settings.StoreSelection
import Storekeeper.Proofs.Text.Spelling

/-!
# Settings written out as variables

Accepted settings can be written out as variables: the URL and the name of the database as they
stand, and of the others as many as one likes, each in any of the ways in which its value may be
written.  What is read from such variables is accepted again, and has the values that were written
and the defaults for the rest.
-/

namespace Storekeeper

/-! ### Values and their texts -/

/-- The text writes the name of the level in any letter case, with any underscores, hyphens and
spaces anywhere in it. -/
def IsolationLevel.IsWritten (level : IsolationLevel) (text : String) : Prop :=
  Text.IsRecased level.name.toList (text.toList.filter fun c => c ≠ '_' ∧ c ≠ '-' ∧ c ≠ ' ')

theorem IsolationLevel.isSmallWord_name (level : IsolationLevel) :
  Text.IsSmallWord (level.name.toList.map Char.toLower)
  := by
  cases level <;> decide

theorem IsolationLevel.ofName?_name (level : IsolationLevel) :
  ofName? (String.ofList (level.name.toList.map Char.toLower)) = some level
  := by
  cases level <;> decide

theorem IsolationLevel.parse_of_isWritten {level : IsolationLevel} {text : String}
    (h : level.IsWritten text) :
  IsolationLevel.parse text = .ok level
  := by
  have hfilter : text.toList.filter (fun c => !isSeparator c)
      = text.toList.filter fun c => c ≠ '_' ∧ c ≠ '-' ∧ c ≠ ' ' := by
    apply List.filter_congr
    intro c _
    rw [Bool.eq_iff_iff]
    simp [isSeparator, and_assoc]
  have hname : ofText? text = some level := by
    rw [ofText?, normalize, hfilter, Text.lower_of_isRecased level.isSmallWord_name h,
      level.ofName?_name]
  rw [parse, hname]

theorem Environment.parse_of_writesWord {e : Environment} {text : String}
    (h : Text.WritesWord e.name text) :
  Environment.parse text = .ok e
  := by
  have hsmall : Text.IsSmallWord e.name.toList := by
    cases e <;> decide
  rw [Environment.parse, Environment.ofText?, Environment.normalize, Text.lowered_trimmed hsmall h,
    Environment.ofName?_name]

namespace Settings

/-- The words for yes and for no. -/
def flagWords : Bool → List String
  | true => ["1", "true", "yes", "on"]
  | false => ["0", "false", "no", "off"]

theorem isSmallWord_of_mem_flagWords {b : Bool} {word : String} (h : word ∈ flagWords b) :
  Text.IsSmallWord word.toList
  := by
  revert word
  cases b <;> decide

theorem flag?_of_mem_flagWords {b : Bool} {word : String} (h : word ∈ flagWords b) :
  flag? word = some b
  := by
  revert word
  cases b <;> decide

/-! ### Variables -/

/-- The variables that need not be bound, other than the name of the database. -/
inductive Variable where
  | environment
  | transactionTimeout
  | isolation
  | healthCheckInterval
  | healthCheckEnabled
  | healthyThreshold
  | maxRetries
  | retryDelay
  | retryJitter
  | connectTimeout
  | logQueries
deriving DecidableEq

namespace Variable

/-- The name under which a variable is looked up. -/
def name : Variable → String
  | environment => "ENVIRONMENT"
  | transactionTimeout => "DATABASE_TRANSACTION_TIMEOUT_MS"
  | isolation => "DATABASE_ISOLATION_LEVEL"
  | healthCheckInterval => "DATABASE_HEALTH_CHECK_INTERVAL_MS"
  | healthCheckEnabled => "DATABASE_HEALTH_CHECK_ENABLED"
  | healthyThreshold => "DATABASE_HEALTH_THRESHOLD_MS"
  | maxRetries => "DATABASE_MAX_RETRIES"
  | retryDelay => "DATABASE_RETRY_DELAY_MS"
  | retryJitter => "DATABASE_RETRY_JITTER"
  | connectTimeout => "DATABASE_CONNECT_TIMEOUT_MS"
  | logQueries => "DATABASE_LOG_QUERIES"

/-- All variables. -/
def all : List Variable :=
  [environment, transactionTimeout, isolation, healthCheckInterval, healthCheckEnabled,
    healthyThreshold, maxRetries, retryDelay, retryJitter, connectTimeout, logQueries]

/-- No two variables are looked up under one name. -/
theorem find?_name (v : Variable) :
  all.find? (·.name == v.name) = some v
  := by
  cases v <;> decide

/-- The text writes a yes or no: one of its words, in any letter case and between blanks. -/
def WritesFlag (b : Bool) (text : String) : Prop := ∃ word ∈ flagWords b, Text.WritesWord word text

/-- The text writes the value that the settings have for the variable. -/
def Writes (s : Settings) : Variable → String → Prop
  | environment => Text.WritesWord s.environment.name
  | isolation => s.isolation.IsWritten
  | transactionTimeout => Text.WritesNumber s.transactionTimeout.toNat
  | healthCheckInterval => Text.WritesNumber s.healthCheckInterval.toNat
  | healthyThreshold => Text.WritesNumber s.healthyThreshold.toNat
  | maxRetries => Text.WritesNumber s.maxRetries.toNat
  | retryDelay => Text.WritesNumber s.retryDelay.toNat
  | connectTimeout => Text.WritesNumber s.connectTimeout.toNat
  | healthCheckEnabled => WritesFlag s.healthCheckEnabled
  | retryJitter => WritesFlag s.retryJitter
  | logQueries => WritesFlag s.logQueries

/-- The plain text for the value that the settings have for the variable. -/
def text (s : Settings) : Variable → String
  | environment => s.environment.name
  | isolation => s.isolation.name
  | transactionTimeout => Nat.repr s.transactionTimeout.toNat
  | healthCheckInterval => Nat.repr s.healthCheckInterval.toNat
  | healthyThreshold => Nat.repr s.healthyThreshold.toNat
  | maxRetries => Nat.repr s.maxRetries.toNat
  | retryDelay => Nat.repr s.retryDelay.toNat
  | connectTimeout => Nat.repr s.connectTimeout.toNat
  | healthCheckEnabled => toString s.healthCheckEnabled
  | retryJitter => toString s.retryJitter
  | logQueries => toString s.logQueries

theorem writesFlag_toString (b : Bool) :
  WritesFlag b (toString b)
  := by
  refine ⟨toString b, ?_, Text.writesWord_self _⟩
  cases b <;> decide

theorem writes_text (s : Settings) (v : Variable) :
  v.Writes s (v.text s)
  := by
  cases v with
  | environment => exact Text.writesWord_self _
  | isolation =>
    rw [Writes, text, IsolationLevel.IsWritten]
    cases s.isolation <;> rfl
  | transactionTimeout | healthCheckInterval | healthyThreshold | maxRetries | retryDelay
  | connectTimeout => exact Text.writesNumber_repr _
  | healthCheckEnabled | retryJitter | logQueries => exact writesFlag_toString _

end Variable

/-- The URL and the name of the database are bound to those of the settings, and of the other
variables those in `bound` are, each to a text that writes its value.  The second name of the
environment must not give it where the first does not. -/
structure Binds (get : Lookup) (bound : Finset Variable) (s : Settings) : Prop where
  url : get "DATABASE_URL" = some s.url
  databaseName : get "DATABASE_NAME" = some s.databaseName
  written : ∀ v ∈ bound, ∃ text, get v.name = some text ∧ v.Writes s text
  unbound : ∀ v ∉ bound, get v.name = none
  env : .environment ∉ bound → get "ENV" = none

/-- The variables that write out the settings plainly, those in `bound` besides the URL and the name
of the database. -/
def writeOut (s : Settings) (bound : Finset Variable) : Lookup := fun name =>
  if name = "DATABASE_URL" then some s.url
  else if name = "DATABASE_NAME" then some s.databaseName
  else ((Variable.all.find? (·.name == name)).filter (· ∈ bound)).map (Variable.text s)

theorem writeOut_name (s : Settings) (bound : Finset Variable) (v : Variable) :
  s.writeOut bound v.name = if v ∈ bound then some (v.text s) else none
  := by
  have hurl : v.name ≠ "DATABASE_URL" := by
    cases v <;> decide
  have hname : v.name ≠ "DATABASE_NAME" := by
    cases v <;> decide
  rw [writeOut, if_neg hurl, if_neg hname, Variable.find?_name, Option.filter_some]
  by_cases hv : v ∈ bound
  · rw [if_pos hv, if_pos (decide_eq_true hv), Option.map_some]
  · rw [if_neg hv, if_neg (by simpa using hv), Option.map_none]

/-- The settings with the defaults for all variables that are not in `bound`. -/
def restrict (s : Settings) (bound : Finset Variable) : Settings :=
  let d : Settings := { url := s.url }
  { url := s.url
    databaseName := s.databaseName
    environment := if .environment ∈ bound then s.environment else d.environment
    transactionTimeout :=
      if .transactionTimeout ∈ bound then s.transactionTimeout else d.transactionTimeout
    isolation := if .isolation ∈ bound then s.isolation else d.isolation
    healthCheckInterval :=
      if .healthCheckInterval ∈ bound then s.healthCheckInterval else d.healthCheckInterval
    healthCheckEnabled :=
      if .healthCheckEnabled ∈ bound then s.healthCheckEnabled else d.healthCheckEnabled
    healthyThreshold :=
      if .healthyThreshold ∈ bound then s.healthyThreshold else d.healthyThreshold
    maxRetries := if .maxRetries ∈ bound then s.maxRetries else d.maxRetries
    retryDelay := if .retryDelay ∈ bound then s.retryDelay else d.retryDelay
    retryJitter := if .retryJitter ∈ bound then s.retryJitter else d.retryJitter
    connectTimeout := if .connectTimeout ∈ bound then s.connectTimeout else d.connectTimeout
    logQueries := if .logQueries ∈ bound then s.logQueries else d.logQueries }

/-! ### Reading one variable -/

section

variable {get : Lookup} {name text : String}

theorem readNumber_of_writesNumber {n : Nat} (hget : get name = some text)
    (h : Text.WritesNumber n text) (hn : n < UInt64.size) (default : Nat) :
  readNumber get name default = .ok n
  := by
  have hread : Text.readWord 64 (Text.trim text.toList) = some n :=
    Text.readWord_of_writesNumber h hn
  simp only [readNumber, hget, hread]

theorem readLong_of_writesNumber {x : UInt64} (hget : get name = some text)
    (h : Text.WritesNumber x.toNat text) (default : UInt64) :
  readLong get name default = .ok x
  := by
  rw [readLong, readNumber_of_writesNumber hget h x.toNat_lt]
  exact congrArg Except.ok UInt64.ofNat_toNat

theorem readShort_of_writesNumber {x : UInt32} (hget : get name = some text)
    (h : Text.WritesNumber x.toNat text) (default : UInt32) :
  readShort get name default = .ok x
  := by
  have hlong : x.toNat < UInt64.size := Nat.lt_trans x.toNat_lt (by decide)
  rw [readShort, readNumber_of_writesNumber hget h hlong]
  dsimp only
  rw [if_pos x.toNat_lt]
  exact congrArg Except.ok UInt32.ofNat_toNat

theorem readFlag_of_writesFlag {b : Bool} (hget : get name = some text)
    (h : Variable.WritesFlag b text) (default : Bool) :
  readFlag get name default = .ok b
  := by
  obtain ⟨word, hword, hwrites⟩ := h
  have hread := Text.lowered_trimmed (isSmallWord_of_mem_flagWords hword) hwrites
  simp only [readFlag, hget, hread, flag?_of_mem_flagWords hword]

end

theorem binds_writeOut (s : Settings) (bound : Finset Variable) :
  Binds (s.writeOut bound) bound s
  := by
  refine ⟨rfl, rfl, ?_, ?_, fun _ => rfl⟩
  · intro v hv
    refine ⟨v.text s, ?_, v.writes_text s⟩
    rw [writeOut_name, if_pos hv]
  · intro v hv
    rw [writeOut_name, if_neg hv]

namespace Binds

variable {get : Lookup} {bound : Finset Variable} {s : Settings}

/-- A reader that gives back the value that is written, and the default of a variable that is not
bound. -/
theorem reads {α : Type} {result : Except Error α} {x d : α} (h : Binds get bound s) (v : Variable)
    (hwritten : ∀ text, get v.name = some text → v.Writes s text → result = .ok x)
    (hunbound : v ∉ bound → result = .ok d) :
  result = .ok (if v ∈ bound then x else d)
  := by
  split
  · next hv =>
    obtain ⟨text, hget, hwrites⟩ := h.written v hv
    exact hwritten text hget hwrites
  · next hv => exact hunbound hv

theorem readLong (h : Binds get bound s) (v : Variable) {x : UInt64}
    (hv : v.Writes s = Text.WritesNumber x.toNat) (default : UInt64) :
  Settings.readLong get v.name default = .ok (if v ∈ bound then x else default)
  := by
  apply h.reads
  · intro text hget hwrites
    rw [hv] at hwrites
    exact readLong_of_writesNumber hget hwrites default
  · intro hnot
    exact readLong_of_none (h.unbound v hnot) default

theorem readShort (h : Binds get bound s) (v : Variable) {x : UInt32}
    (hv : v.Writes s = Text.WritesNumber x.toNat) (default : UInt32) :
  Settings.readShort get v.name default = .ok (if v ∈ bound then x else default)
  := by
  apply h.reads
  · intro text hget hwrites
    rw [hv] at hwrites
    exact readShort_of_writesNumber hget hwrites default
  · intro hnot
    exact readShort_of_none (h.unbound v hnot) default

theorem readFlag (h : Binds get bound s) (v : Variable) {b : Bool}
    (hv : v.Writes s = Variable.WritesFlag b) (default : Bool) :
  Settings.readFlag get v.name default = .ok (if v ∈ bound then b else default)
  := by
  apply h.reads
  · intro text hget hwrites
    rw [hv] at hwrites
    exact readFlag_of_writesFlag hget hwrites default
  · intro hnot
    exact readFlag_of_none (h.unbound v hnot) default

theorem readIsolation (h : Binds get bound s) (default : IsolationLevel) :
  Settings.readIsolation get default
    = .ok (if .isolation ∈ bound then s.isolation else default)
  := by
  apply h.reads
  · intro text hget hwrites
    rw [Settings.readIsolation, show get "DATABASE_ISOLATION_LEVEL" = some text from hget]
    exact IsolationLevel.parse_of_isWritten hwrites
  · intro hnot
    rw [Settings.readIsolation,
      show get "DATABASE_ISOLATION_LEVEL" = none from h.unbound .isolation hnot]

theorem readEnvironment (h : Binds get bound s) :
  Settings.readEnvironment get
    = .ok (if .environment ∈ bound then s.environment else .development)
  := by
  apply h.reads
  · intro text hget hwrites
    rw [Settings.readEnvironment, show get "ENVIRONMENT" = some text from hget, Option.some_or]
    exact Environment.parse_of_writesWord hwrites
  · intro hnot
    rw [Settings.readEnvironment,
      show get "ENVIRONMENT" = none from h.unbound .environment hnot, h.env hnot]
    rfl

end Binds

/-! ### All settings -/

section

variable {s : Settings}

/-- A URL has a colon, so it is not blank. -/
theorem isAllBlank_of_parse? {text : String} {url : Url} (h : Url.parse? text = some url) :
  Text.isAllBlank text = false
  := by
  obtain ⟨⟨rest, htext⟩, -⟩ := Url.scheme_eq h
  have hcolon : Text.isBlank ':' = false := by decide
  rw [Text.isAllBlank, htext, List.all_append, List.all_cons, hcolon, Bool.false_and,
    Bool.and_false]

/-- Settings stay accepted with defaults in place of some of their values. -/
theorem validate_restrict (h : s.validate = .ok ()) (bound : Finset Variable) :
  (s.restrict bound).validate = .ok ()
  := by
  obtain ⟨hurl, hpositive, hname⟩ := validate_eq_ok_iff.mp h
  have hlong (v : Variable) {x d : UInt64} (hx : x.toNat ≠ 0) (hd : d.toNat ≠ 0) :
      (if v ∈ bound then x else d).toNat ≠ 0 := by
    split
    · exact hx
    · exact hd
  have hshort (v : Variable) {x d : UInt32} (hx : x.toNat ≠ 0) (hd : d.toNat ≠ 0) :
      (if v ∈ bound then x else d).toNat ≠ 0 := by
    split
    · exact hx
    · exact hd
  simp only [positiveSettings, List.forall_mem_cons] at hpositive
  obtain ⟨htimeout, hinterval, hthreshold, hretries, hconnect, -⟩ := hpositive
  apply validate_eq_ok_iff.mpr
  refine ⟨hurl, ?_, hname⟩
  simp only [positiveSettings, List.forall_mem_cons, restrict]
  refine ⟨hlong _ htimeout (by decide), hlong _ hinterval (by decide),
    hlong _ hthreshold (by decide), hshort _ hretries (by decide), hlong _ hconnect (by decide),
    List.forall_mem_nil _⟩

theorem readLookup_of_binds {get : Lookup} {bound : Finset Variable} (hs : s.validate = .ok ())
    (h : Binds get bound s) :
  readLookup get = .ok (s.restrict bound)
  := by
  obtain ⟨⟨url, hparse, -⟩, -, hblank⟩ := validate_eq_ok_iff.mp hs
  have hurl : nonBlank? get "DATABASE_URL" = some s.url := by
    simp [nonBlank?, h.url, isAllBlank_of_parse? hparse]
  have hname : nonBlank? get "DATABASE_NAME" = some s.databaseName := by
    simp [nonBlank?, h.databaseName, hblank]
  have htimeout := h.readLong .transactionTimeout rfl
  have hinterval := h.readLong .healthCheckInterval rfl
  have henabled := h.readFlag .healthCheckEnabled rfl
  have hthreshold := h.readLong .healthyThreshold rfl
  have hretries := h.readShort .maxRetries rfl
  have hdelay := h.readLong .retryDelay rfl
  have hjitter := h.readFlag .retryJitter rfl
  have hconnect := h.readLong .connectTimeout rfl
  have hlog := h.readFlag .logQueries rfl
  simp only [Variable.name] at htimeout hinterval henabled hthreshold hretries
  simp only [Variable.name] at hdelay hjitter hconnect hlog
  simp only [readLookup, hurl, hname, h.readEnvironment, h.readIsolation, htimeout, hinterval,
    henabled, hthreshold, hretries, hdelay, hjitter, hconnect, hlog]
  rfl

/-- Accepted settings can be written out as variables, any of them, and in whatever way that is done
they are read back, with the values that were written and the defaults for the rest. -/
theorem ofLookup_of_binds (hs : s.validate = .ok ()) (bound : Finset Variable) :
  (∃ get, Binds get bound s)
    ∧ ∀ get, Binds get bound s → ofLookup get = .ok (s.restrict bound)
  := by
  constructor
  · exact ⟨s.writeOut bound, binds_writeOut s bound⟩
  · intro get h
    rw [ofLookup_of_readLookup (readLookup_of_binds hs h), validate_restrict hs bound]
    rfl

end

/-! ### Settings of which four are written out -/

/-- Settings with values that are no defaults. -/
def tuned : Settings where
  url := "memory://local/app"
  databaseName := " tracker "
  environment := .staging
  isolation := .repeatableRead
  maxRetries := 4294967295
  retryDelay := 250
  logQueries := true

/-- The variables of which `tunedLookup` writes the values. -/
def tunedVariables : Finset Variable := {.environment, .isolation, .maxRetries, .logQueries}

/-- Some of the values of `tuned`, written out. -/
def tunedLookup : Lookup
  | "DATABASE_URL" => some "memory://local/app"
  | "DATABASE_NAME" => some " tracker "
  | "ENVIRONMENT" => some "\tStaging "
  | "DATABASE_ISOLATION_LEVEL" => some " repeat-able_READ"
  | "DATABASE_MAX_RETRIES" => some "0004294967295\n"
  | "DATABASE_LOG_QUERIES" => some " Yes"
  | _ => none

theorem binds_tuned :
  Binds tunedLookup tunedVariables tuned
  := by
  have hblank (blanks : List Char) (h : blanks.all Text.isBlank = true) :
      ∀ c ∈ blanks, Text.isBlank c = true := List.all_eq_true.mp h
  have hspace := hblank [' '] (by decide)
  refine ⟨rfl, rfl, ?_, ?_, fun _ => rfl⟩
  · intro v hv
    simp only [tunedVariables, Finset.mem_insert, Finset.mem_singleton] at hv
    rcases hv with rfl | rfl | rfl | rfl
    · exact ⟨_, rfl, "Staging".toList, by decide, _, _, hblank ['\t'] (by decide), hspace, rfl⟩
    · exact ⟨_, rfl, rfl⟩
    · exact ⟨_, rfl, 3, _, _, hblank [] rfl, hblank ['\n'] (by decide), rfl⟩
    · exact ⟨_, rfl, "yes", by decide, "Yes".toList, by decide, _, _, hspace, hblank [] rfl, rfl⟩
  · intro v
    cases v <;> decide

theorem ofLookup_of_binds_tuned :
  tuned.validate = .ok ()
    ∧ Binds tunedLookup tunedVariables tuned
    ∧ ofLookup tunedLookup = .ok { tuned with retryDelay := 1000 }
  := by
  have hvalid : tuned.validate = .ok () := by decide
  have hrestrict : tuned.restrict tunedVariables = { tuned with retryDelay := 1000 } := by
    simp [restrict, tunedVariables, tuned]
  refine ⟨hvalid, binds_tuned, ?_⟩
  rw [(ofLookup_of_binds hvalid _).2 _ binds_tuned, hrestrict]

end Settings

end Storekeeper
