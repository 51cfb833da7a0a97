import VectorLint.Config.Load
import VectorLint.Proofs.Text.Utf8
import VectorLint.Proofs.Value.LineEnds

/-!
# Configurations from files and from values

A configuration may be given as a value, or as a file with the JSON text of one. Both ways agree on
which objects describe a configuration, on the configuration, and on what is said about all others;
only that the failure to load a file names the file as well.
-/

namespace VectorLint

open Attempt
open Text (isBlankText)
open Text.Utf8 (encode decode_encode)

namespace Config

variable {fields : List (String × Value)} {c : Config}

/-! ## What describes a configuration -/

/-- Whether a value is an object whose names are not blank. -/
def AreRules (v : Value) : Prop :=
  ∃ rules, v = .object rules ∧ ∀ rule ∈ rules, isBlankText rule.1 = false

/-- Whether a value is an object in which the level, if there is one, is the name of a level. -/
def IsLogging (v : Value) : Prop :=
  ∃ log, v = .object log ∧ ∀ level, Fields.get? log "level" = some level →
    ∃ l : Level, level = .text l.name

/-- Whether fields describe a configuration. -/
structure AreValid (fields : List (String × Value)) : Prop where
  isKnown : ∀ f ∈ fields, f.1 = "rules" ∨ f.1 = "logging"
  rules : ∀ v, Fields.get? fields "rules" = some v → AreRules v
  logging : ∀ v, Fields.get? fields "logging" = some v → IsLogging v

theorem Level.ofName?_eq_some_iff {name : String} {l : Level} :
    Level.ofName? name = some l ↔ name = l.name := by
  constructor
  · intro h
    have hname := List.find?_some h
    exact (eq_of_beq hname).symm
  · rintro rfl
    exact Level.ofName?_name l

theorem rulesFaults_eq_nil_iff (v : Value) : rulesFaults v = [] ↔ AreRules v := by
  cases v with
  | object rules => simp [rulesFaults, Value.fields?, AreRules]
  | _ => simp [rulesFaults, Value.fields?, AreRules]

theorem bind_ofName?_eq_some_iff {v : Value} {l : Level} :
    v.text?.bind Level.ofName? = some l ↔ v = .text l.name := by
  cases v with
  | text s => simp [Value.text?, Level.ofName?_eq_some_iff]
  | _ => simp [Value.text?]

theorem levelOf_object_eq_ok_iff {log : List (String × Value)} {l : Level} :
    levelOf (.object log) = .ok l ↔
      Fields.get? log "level" = some (.text l.name)
        ∨ Fields.get? log "level" = none ∧ l = .info := by
  simp only [levelOf, Value.fields?]
  cases hlevel : Fields.get? log "level" with
  | none => simp [eq_comm]
  | some level =>
    simp only [Option.some.injEq, reduceCtorEq, false_and, or_false]
    rw [← bind_ofName?_eq_some_iff]
    cases level.text?.bind Level.ofName? <;> simp

theorem exists_object_of_levelOf {v : Value} {l : Level} (h : levelOf v = .ok l) :
    ∃ log, v = .object log := by
  cases v with
  | object log => exact ⟨log, rfl⟩
  | _ => cases h

theorem exists_levelOf_iff (v : Value) : (∃ l, levelOf v = .ok l) ↔ IsLogging v := by
  constructor
  · rintro ⟨l, hl⟩
    obtain ⟨log, rfl⟩ := exists_object_of_levelOf hl
    refine ⟨log, rfl, ?_⟩
    intro level hlevel
    rcases levelOf_object_eq_ok_iff.mp hl with hname | ⟨hnone, -⟩
    · exact ⟨l, Option.some.inj (hlevel.symm.trans hname)⟩
    · rw [hlevel] at hnone
      cases hnone
  · rintro ⟨log, rfl, hlog⟩
    cases hlevel : Fields.get? log "level" with
    | none => exact ⟨.info, levelOf_object_eq_ok_iff.mpr (.inr ⟨hlevel, rfl⟩)⟩
    | some level =>
      obtain ⟨l, rfl⟩ := hlog level hlevel
      exact ⟨l, levelOf_object_eq_ok_iff.mpr (.inl hlevel)⟩

theorem exists_levelIn_iff :
    (∃ l, levelIn fields = .ok l) ↔ ∀ v, Fields.get? fields "logging" = some v → IsLogging v := by
  rw [levelIn]
  cases hlogging : Fields.get? fields "logging" with
  | none => simp
  | some v => simpa using exists_levelOf_iff v

theorem faults_eq_nil_iff : faults fields = [] ↔ AreValid fields := by
  simp only [faults, List.append_eq_nil_iff, List.map_eq_nil_iff, List.filter_eq_nil_iff]
  constructor
  · rintro ⟨⟨hrules, hlevel⟩, hextra⟩
    refine ⟨?_, ?_, exists_levelIn_iff.mp ?_⟩
    · intro f hf
      simpa [Decidable.or_iff_not_imp_left] using hextra f hf
    · intro v hv
      rw [hv] at hrules
      exact (rulesFaults_eq_nil_iff v).mp hrules
    · cases hlevelIn : levelIn fields with
      | ok l => exact ⟨l, rfl⟩
      | error f =>
        rw [hlevelIn] at hlevel
        cases hlevel
  · rintro ⟨hknown, hrules, hlogging⟩
    obtain ⟨l, hl⟩ := exists_levelIn_iff.mpr hlogging
    refine ⟨⟨?_, ?_⟩, ?_⟩
    · cases hv : Fields.get? fields "rules" with
      | none => rfl
      | some v => exact (rulesFaults_eq_nil_iff v).mpr (hrules v hv)
    · rw [hl]
    · intro f hf
      simpa [Decidable.or_iff_not_imp_left] using hknown f hf

theorem exists_coerce_object_iff :
    (∃ c, coerce (.object fields) = .ok c) ↔ AreValid fields := by
  rw [← faults_eq_nil_iff]
  change (∃ c, (ofFields fields).mapError failure = .ok c) ↔ _
  rw [ofFields]
  cases faults fields with
  | nil => simp [Except.mapError]
  | cons f fs => simp [Except.mapError]

/-! ## The configuration that is described -/

/-- Whether a configuration is the one that fields describe: its rules are the ones given, and its
level is the one given. Without rules there are none, and without a level it is the usual one. -/
structure Describe (fields : List (String × Value)) (c : Config) : Prop where
  rules : Fields.get? fields "rules" = some (.object c.rules)
    ∨ Fields.get? fields "rules" = none ∧ c.rules = []
  level : (∃ log, Fields.get? fields "logging" = some (.object log)
      ∧ (Fields.get? log "level" = some (.text c.level.name)
        ∨ Fields.get? log "level" = none ∧ c.level = .info))
    ∨ Fields.get? fields "logging" = none ∧ c.level = .info

theorem describe_of_ofFields (h : ofFields fields = .ok c) : Describe fields c := by
  have hfaults : faults fields = [] := by
    by_contra hne
    rw [ofFields] at h
    split at h
    · contradiction
    · cases h
  obtain ⟨-, hrules, hlogging⟩ := faults_eq_nil_iff.mp hfaults
  obtain ⟨l, hl⟩ := exists_levelIn_iff.mpr hlogging
  simp only [ofFields, hfaults, hl, Except.ok.injEq] at h
  subst h
  constructor
  · cases hget : Fields.get? fields "rules" with
    | none => exact .inr ⟨rfl, rfl⟩
    | some v =>
      obtain ⟨rules, rfl, -⟩ := hrules v hget
      exact .inl rfl
  · rw [levelIn] at hl
    cases hget : Fields.get? fields "logging" with
    | none =>
      rw [hget] at hl
      cases hl
      exact .inr ⟨rfl, rfl⟩
    | some v =>
      rw [hget] at hl
      obtain ⟨log, rfl⟩ := exists_object_of_levelOf hl
      exact .inl ⟨log, rfl, levelOf_object_eq_ok_iff.mp hl⟩

/-! ## Loading -/

section

variable {fs : Files} {depth : ℕ} {p : FilePath} {octets : List UInt8} {text : List Char}
  {v : Value}

theorem holds_of_read (h : fs.read p = .ok octets) : fs.holds p = .ok true := by
  rw [Files.read] at h
  rw [Files.holds]
  cases hentry : fs.entry p with
  | ok e => rfl
  | error problem =>
    rw [hentry] at h
    cases h

theorem loadFrom_of_read (h : fs.read p = .ok octets) :
    loadFrom fs depth p = (ofOctets depth octets).mapError (·.failure p) := by
  rw [loadFrom, holds_of_read h, h]
  rfl

theorem valueOfText_encode (hv : Json.read depth text = .ok v) :
    valueOfText depth (Text.plainLineEnds text) = .ok v := by
  rw [valueOfText, Json.read_plainLineEnds hv]

theorem ofOctets_encode_object (hv : Json.read depth text = .ok (.object fields)) :
    ofOctets depth (encode text)
      = (ofFields fields).mapError fun faults ↦ .unusable (message faults) := by
  simp only [ofOctets, decode_encode]
  change valueOfText depth (Text.plainLineEnds text) >>= _ = _
  rw [valueOfText_encode hv]
  rfl

theorem ofOctets_encode_other (hv : Json.read depth text = .ok v) (hne : v.fields? = none) :
    ∃ problem, ofOctets depth (encode text) = .error (.unusable problem) := by
  simp only [ofOctets, decode_encode]
  change ∃ problem, valueOfText depth (Text.plainLineEnds text) >>= _ = _
  rw [valueOfText_encode hv]
  cases v with
  | object fields => cases hne
  | _ => exact ⟨_, rfl⟩

/-- Whether the configuration is loaded from a path: it is named, or it is the nearest one and none
is named. -/
def IsChosen (fs : Files) (path : Option FilePath) (p : FilePath) : Prop :=
  path = some p ∨ path = none ∧ find fs ⟨.here, []⟩ = .ok (some p)

theorem IsChosen.load_eq {path : Option FilePath} (h : IsChosen fs path p) :
    load fs depth path = loadFrom fs depth p := by
  rcases h with rfl | ⟨rfl, hfind⟩
  · rfl
  · rw [load, hfind]
    rfl

/-- **Files and values agree.** Let a file hold the text of a JSON value. If it is an object, then
what is loaded is the configuration that the object describes, and the failure is the one for the
object behind the name of the file. An object describes a configuration exactly when it has no other
names than those of the rules and the log, no rule has a blank name, and the level is a known one;
the rules of the configuration then are the ones given. No other value can be loaded. -/
theorem load_eq_coerce {path : Option FilePath} (hpath : IsChosen fs path p)
    (hp : fs.read p = .ok (encode text)) (hv : Json.read depth text = .ok v) :
    (∀ fields, v = .object fields →
      load fs depth path = (coerce v).mapError (fun f ↦
          ⟨.value, "Failed to load config from " ++ p.shown ++ ": " ++ f.shown⟩)
        ∧ ((∃ c, coerce v = .ok c) ↔ AreValid fields)
        ∧ ∀ c, coerce v = .ok c → Describe fields c)
      ∧ ((∀ fields, v ≠ .object fields) →
        ∃ problem, load fs depth path
          = .error ⟨.value, "Failed to load config from " ++ p.shown ++ ": " ++ problem⟩) := by
  rw [hpath.load_eq, loadFrom_of_read hp]
  constructor
  · rintro fields rfl
    refine ⟨?_, exists_coerce_object_iff, ?_⟩
    · rw [ofOctets_encode_object hv]
      change _ = ((ofFields fields).mapError failure).mapError _
      cases ofFields fields <;> rfl
    · intro c hc
      exact describe_of_ofFields (eq_ok_of_mapError_eq_ok hc)
  · intro hne
    have hnone : v.fields? = none := by
      cases v with
      | object fields => exact absurd rfl (hne fields)
      | _ => rfl
    obtain ⟨problem, hproblem⟩ := ofOctets_encode_other hv hnone
    rw [hproblem]
    exact ⟨problem, rfl⟩

theorem exists_object_of_isSome {x : Except Json.Fault Value}
    (h : (x.toOption.bind Value.fields?).isSome = true) : ∃ fields, x = .ok (.object fields) := by
  cases x with
  | error fault => cases h
  | ok v =>
    cases v with
    | object fields => exact ⟨fields, rfl⟩
    | _ => cases h

/-- A configuration with returns at the line ends, and one with a name too many. -/
theorem load_eq_coerce_returns :
    let text := ("\x7b\"rules\": \x7b\"elm\": \x7b\"b\": [2, true]\x7d\x7d,\r\n"
      ++ "\"logging\": \x7b\"level\": \"warn\"\x7d\x7d").toList
    let wrong := "\x7b\"rules\": \x7b\x7d,\r\"x\": 1\x7d".toList
    let fs : Files := ⟨.directory [("a.json", .file (encode text)),
      ("b.json", .file (encode wrong))], []⟩
    (∃ fields c, Json.read 9 text = .ok (.object fields)
        ∧ load fs 9 (some ⟨.here, ["a.json"]⟩) = .ok c ∧ coerce (.object fields) = .ok c
        ∧ Describe fields c ∧ c.level = .warn)
      ∧ ∃ fields, Json.read 9 wrong = .ok (.object fields) ∧ ¬ AreValid fields
        ∧ load fs 9 (some ⟨.here, ["b.json"]⟩) = .error ⟨.value,
          "Failed to load config from b.json: 1 validation error for SvgLintConfig\nx\n  Extra "
            ++ "inputs are not permitted [type=extra_forbidden, input_value=1, input_type=int]"⟩
    := by
  intro text wrong fs
  have hread : fs.read ⟨.here, ["a.json"]⟩ = .ok (encode text) := by rfl
  have hread' : fs.read ⟨.here, ["b.json"]⟩ = .ok (encode wrong) := by rfl
  obtain ⟨fields, hv⟩ : ∃ fields, Json.read 9 text = .ok (.object fields) :=
    exists_object_of_isSome (by decide +kernel)
  obtain ⟨fields', hv'⟩ : ∃ fields, Json.read 9 wrong = .ok (.object fields) :=
    exists_object_of_isSome (by decide +kernel)
  constructor
  · obtain ⟨hagree, -, hdescribe⟩ := (load_eq_coerce (.inl rfl) hread hv).1 fields rfl
    have hlevel : (load fs 9 (some ⟨.here, ["a.json"]⟩)).toOption.map (·.level) = some .warn := by
      decide +kernel
    cases hc : coerce (.object fields) with
    | error f =>
      rw [hagree, hc] at hlevel
      cases hlevel
    | ok c =>
      rw [hc] at hagree
      rw [hagree] at hlevel
      exact ⟨fields, c, hv, hagree, hc, hdescribe c hc, Option.some.inj hlevel⟩
  · obtain ⟨hagree, hvalid, -⟩ := (load_eq_coerce (.inl rfl) hread' hv').1 fields' rfl
    have hload : load fs 9 (some ⟨.here, ["b.json"]⟩) = .error ⟨.value,
        "Failed to load config from b.json: 1 validation error for SvgLintConfig\nx\n  Extra "
          ++ "inputs are not permitted [type=extra_forbidden, input_value=1, input_type=int]"⟩ :=
      eq_error_of_map_eq_error (f := fun _ ↦ ()) (by decide +kernel)
    refine ⟨fields', hv', ?_, hload⟩
    intro h
    obtain ⟨c, hc⟩ := hvalid.mpr h
    rw [hagree, hc] at hload
    cases hload

end

end Config

end VectorLint
