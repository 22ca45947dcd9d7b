import Mathlib
import OAuthEndpoint.Proofs.Settings.Layers

/-! Variables over a file.  A variable lies over the field of the file that its name says and over
no other, and what neither sets has its default; variables that are no settings do not count
(`load_layered`). -/

namespace OAuthEndpoint

/-! ### Numerals -/

namespace Number

theorem isDigit_of_natural {digits : List Char} {n : Nat} (h : natural? digits = some n) :
    ∀ c ∈ digits, c.isDigit = true := by
  rw [natural?] at h
  split at h
  · cases h
  · next hdigits =>
    rw [Bool.or_eq_true, not_or] at hdigits
    simpa using hdigits.2

theorem toLower_of_isDigit {c : Char} (h : c.isDigit = true) : c.toLower = c := by
  rw [Char.isDigit, Bool.and_eq_true] at h
  have hnine : c.val ≤ '9'.val := of_decide_eq_true h.2
  refine dif_neg fun hupper => ?_
  exact absurd (UInt32.le_trans hupper.1 hnine) (by decide)

/-- A numeral has no letters. -/
theorem toLower_of_integer {text : List Char} {n : Int} (h : integer? text = some n) :
    ∀ c ∈ text, c.toLower = c := by
  have hnatural : ∃ m, natural? (sign text).2 = some m := by
    obtain ⟨m, hm, -⟩ := Option.map_eq_some_iff.mp h
    obtain ⟨m, hm, -⟩ := Option.bind_eq_some_iff.mp hm
    exact ⟨m, hm⟩
  obtain ⟨m, hm⟩ := hnatural
  have hdigits : ∀ c ∈ (sign text).2, c.toLower = c :=
    fun c hc => toLower_of_isDigit (isDigit_of_natural hm c hc)
  rw [sign.eq_def] at hdigits
  split at hdigits
  · exact List.forall_mem_cons.mpr ⟨rfl, hdigits⟩
  · exact List.forall_mem_cons.mpr ⟨rfl, hdigits⟩
  · exact hdigits

theorem isInt64_toNat (port : UInt16) : isInt64 port.toNat = true := by
  have hmin : Int64.minValue.toInt ≤ 0 := by decide
  have hmax : (UInt16.size : Int) ≤ Int64.maxValue.toInt := by decide
  have hport := port.toNat_lt_size
  rw [isInt64, decide_eq_true_iff]
  omega

theorem lt_size_of_isInt64 {n : Nat} (h : isInt64 n = true) : n < UInt64.size := by
  have hmax : Int64.maxValue.toInt < (UInt64.size : Int) := by decide
  rw [isInt64, decide_eq_true_iff] at h
  omega

end Number

/-! ### Assignments -/

namespace Data

variable {path : List String} {layer : List (Place × Data)}

/-- Data that takes the place of all it is laid over. -/
def Replaces (value : Data) : Prop := ∀ base : Data, base.merge value = value

/-- Each assignment of the layer is at the path or at one that parts from it, and takes the place of
what is there. -/
def Settles (layer : List (Place × Data)) (path : List String) : Prop :=
  ∀ entry ∈ layer, entry.2.Replaces ∧
    ∃ target, entry.1 = placeOf target ∧ (target = path ∨ Diverge target path)

/-- The last assignment at a path decides what is there. -/
theorem get?_assignAll (h : Settles layer path) (data : Data) :
    (Settings.assignAll data layer).get? path =
      (layer.reverse.lookup (placeOf path)).or (data.get? path) := by
  induction layer generalizing data with
  | nil => rfl
  | cons entry layer ih =>
    obtain ⟨⟨hreplaces, target, hplace, htarget⟩, hrest⟩ := List.forall_mem_cons.mp h
    have hstep : (data.assign entry.1 entry.2).get? path =
        ([entry].lookup (placeOf path)).or (data.get? path) := by
      obtain ⟨place, value⟩ := entry
      subst hplace
      rw [assign]
      rcases htarget with rfl | htarget
      · rw [get?_modify_same, hreplaces, List.lookup_cons_self, Option.some_or]
      · have hne : placeOf path ≠ placeOf target := by
          intro heq
          rw [placeOf_inj heq] at htarget
          exact not_diverge_self target htarget
        rw [get?_modify_diverge _ htarget, List.lookup_cons, beq_false_of_ne hne]
        rfl
    rw [List.reverse_cons, List.lookup_append, Option.or_assoc, ← hstep]
    exact ih hrest (data.assign entry.1 entry.2)

/-- Assignments within sections leave sections. -/
theorem Sectioned.assignAll {names : List String} {data : Data} (h : data.Sectioned names)
    (hlayer : ∀ entry ∈ layer, ∃ key next rest, entry.1 = placeOf (key :: next :: rest)) :
    (Settings.assignAll data layer).Sectioned names := by
  refine List.foldlRecOn layer _ h fun data hdata entry hentry => ?_
  obtain ⟨key, next, rest, hplace⟩ := hlayer entry hentry
  rw [hplace]
  exact hdata.modify _ key next rest

end Data

open Data

namespace Environment

/-- Whether a name starts with `PORTICO__`, in any letter case. -/
def IsSetting (name : String) : Prop := settingStart <+: (Text.lower name).toList

instance (name : String) : Decidable (IsSetting name) :=
  inferInstanceAs (Decidable (settingStart <+: (Text.lower name).toList))

/-- The variables for the fields of a layer. -/
def fieldPaths : List (String × List String) :=
  [("PORTICO__SERVER__HOST", ["server", "host"]), ("PORTICO__SERVER__PORT", ["server", "port"]),
    ("PORTICO__LOGGING__LEVEL", ["logging", "level"]),
    ("PORTICO__AUTHORIZE__MIN_STATE_LENGTH", ["authorize", "min_state_length"])]

/-- Text that is no flag and no number. -/
structure IsPlain (text : String) : Prop where
  no_flag : Text.lower text ≠ "true" ∧ Text.lower text ≠ "false"
  no_integer : Number.int64? text.toList = none
  no_fraction : Number.Binary64.parse? text.toList = none

/-- The settings among the variables are the fields of a layer, each of its kind. -/
structure Overrides (environment : Environment) (layer : Settings.Layer) : Prop where
  distinct : (environment.entries.map Prod.fst).Nodup
  known : ∀ entry ∈ environment.entries, IsSetting entry.1 → entry.1 ∈ fieldPaths.map Prod.fst
  host : environment.get? "PORTICO__SERVER__HOST" = layer.host
  host_plain : ∀ text ∈ layer.host, IsPlain text
  port : (environment.get? "PORTICO__SERVER__PORT").map (Number.integer? ·.toList) =
    layer.port.map fun port => some (port.toNat : Int)
  level : environment.get? "PORTICO__LOGGING__LEVEL" = layer.level
  level_plain : ∀ text ∈ layer.level, IsPlain text
  minStateLength :
    (environment.get? "PORTICO__AUTHORIZE__MIN_STATE_LENGTH").map (Number.integer? ·.toList) =
      layer.minStateLength.map fun n : Nat => some (n : Int)
  length_fits : ∀ n ∈ layer.minStateLength, Number.isInt64 n = true

/-! ### Values -/

theorem value_of_isPlain {text : String} (h : IsPlain text) : value text = .text text := by
  rw [value, if_neg h.no_flag.1, if_neg h.no_flag.2, h.no_integer, h.no_fraction]

theorem value_of_integer {text : String} {n : Int} (h : Number.integer? text.toList = some n)
    (hfits : Number.isInt64 n) : value text = .integer n := by
  have hlower : Text.lower text = text := by
    rw [Text.lower, List.map_congr_left (Number.toLower_of_integer h), List.map_id',
      String.ofList_toList]
  have hword (word : String) (hnone : Number.integer? word.toList = none) :
      Text.lower text ≠ word := by
    rintro rfl
    rw [hlower, h] at hnone
    cases hnone
  have hint : Number.int64? text.toList = some n := by
    rw [Number.int64?, h, Option.filter_some, if_pos hfits]
  rw [value, if_neg (hword "true" rfl), if_neg (hword "false" rfl), hint]

theorem replaces_value (text : String) : (value text).Replaces := by
  intro base
  rw [value]
  split
  · rfl
  split
  · rfl
  split
  · rfl
  split <;> rfl

/-! ### Places -/

theorem place?_of_mem : ∀ field ∈ fieldPaths, place? field.1 = some (placeOf field.2) := by
  decide +kernel

theorem eq_of_path : ∀ field ∈ fieldPaths, ∀ other ∈ fieldPaths, field.2 = other.2 →
    field.1 = other.1 := by
  decide

theorem diverge_of_mem : ∀ field ∈ fieldPaths, ∀ other ∈ fieldPaths,
    other.2 = field.2 ∨ Diverge other.2 field.2 := by
  decide

theorem diverge_clients : ∀ field ∈ fieldPaths, Diverge field.2 ["clients"] := by
  decide

theorem exists_of_mem : ∀ field ∈ fieldPaths, ∃ key next, field.2 = [key, next] := by
  simp [fieldPaths]

theorem isSetting_of_place {name : String} {place : Place} (h : place? name = some place) :
    IsSetting name := by
  obtain ⟨rest, hrest, -⟩ := Option.map_eq_some_iff.mp h
  exact ⟨rest, (Text.after?_eq_some_iff.mp hrest).symm⟩

variable {entries : List (String × String)}

theorem settings_cons (name text : String) (entries : List (String × String)) :
    settings ⟨(name, text) :: entries⟩ =
      ((place? name).map fun place => (place, value text)).toList ++ settings ⟨entries⟩ := by
  rw [settings, List.filterMap_cons]
  cases place? name <;> rfl

/-- Every setting is at the path of a field. -/
theorem exists_of_settings
    (known : ∀ entry ∈ entries, IsSetting entry.1 → entry.1 ∈ fieldPaths.map Prod.fst) :
    ∀ setting ∈ settings ⟨entries⟩, setting.2.Replaces ∧
      ∃ field ∈ fieldPaths, setting.1 = placeOf field.2 := by
  intro setting hsetting
  obtain ⟨entry, hentry, hfound⟩ := List.mem_filterMap.mp hsetting
  obtain ⟨place, hplace, rfl⟩ := Option.map_eq_some_iff.mp hfound
  have hname := known entry hentry (isSetting_of_place hplace)
  obtain ⟨field, hfield, hname⟩ := List.mem_map.mp hname
  refine ⟨replaces_value entry.2, field, hfield, ?_⟩
  have hpath := place?_of_mem field hfield
  rw [hname, hplace] at hpath
  exact Option.some.inj hpath

/-- What the settings say of a field is what its variable says. -/
theorem lookup_settings (distinct : (entries.map Prod.fst).Nodup)
    (known : ∀ entry ∈ entries, IsSetting entry.1 → entry.1 ∈ fieldPaths.map Prod.fst)
    {field : String × List String} (hfield : field ∈ fieldPaths) :
    (settings ⟨entries⟩).reverse.lookup (placeOf field.2) =
      (entries.lookup field.1).map value := by
  induction entries with
  | nil => rfl
  | cons entry entries ih =>
    obtain ⟨name, text⟩ := entry
    rw [List.map_cons, List.nodup_cons] at distinct
    obtain ⟨hname, hknown⟩ := List.forall_mem_cons.mp known
    have hrest := ih distinct.2 hknown
    rw [settings_cons, List.reverse_append, List.lookup_append, hrest]
    by_cases hsame : field.1 = name
    · subst hsame
      rw [lookup_eq_none_iff_not_mem.mpr distinct.1, List.lookup_cons_self,
        place?_of_mem field hfield]
      exact List.lookup_cons_self
    · rw [List.lookup_cons, beq_false_of_ne hsame]
      -- Another variable is at the path of another field, if it is a setting at all.
      suffices hother : ((place? name).map fun place => (place, value text)).toList.reverse.lookup
          (placeOf field.2) = none by rw [hother, Option.or_none]
      cases hplace : place? name with
      | none => rfl
      | some place =>
        obtain ⟨other, hother, rfl⟩ := List.mem_map.mp (hname (isSetting_of_place hplace))
        rw [place?_of_mem other hother] at hplace
        cases hplace
        have hne : placeOf field.2 ≠ placeOf other.2 := fun heq =>
          hsame (eq_of_path field hfield other hother (placeOf_inj heq))
        exact List.lookup_cons.trans (by rw [beq_false_of_ne hne]; rfl)

theorem settles_settings
    (known : ∀ entry ∈ entries, IsSetting entry.1 → entry.1 ∈ fieldPaths.map Prod.fst)
    {path : List String} (hpath : ∀ field ∈ fieldPaths, field.2 = path ∨ Diverge field.2 path) :
    Settles (settings ⟨entries⟩) path := by
  intro setting hsetting
  obtain ⟨hreplaces, field, hfield, hplace⟩ := exists_of_settings known setting hsetting
  exact ⟨hreplaces, field.2, hplace, hpath field hfield⟩

namespace Overrides

variable {environment : Environment} {layer : Settings.Layer} {data : Data}

/-- A field has what its variable says, and where that is not set what it had. -/
theorem get?_field (h : environment.Overrides layer) {name : String} {path : List String}
    (hfield : (name, path) ∈ fieldPaths) (data : Data) :
    (Settings.assignAll data environment.settings).get? path =
      ((environment.get? name).map value).or (data.get? path) := by
  have hpath := diverge_of_mem (name, path) hfield
  rw [get?_assignAll (settles_settings h.known hpath), lookup_settings h.distinct h.known hfield]
  rfl

/-- No variable sets the clients. -/
theorem get?_clients (h : environment.Overrides layer) (data : Data) :
    (Settings.assignAll data environment.settings).get? ["clients"] = data.get? ["clients"] := by
  have hsettles : Settles environment.settings ["clients"] :=
    settles_settings h.known fun field hfield => .inr (diverge_clients field hfield)
  have hother : environment.settings.reverse.lookup (placeOf ["clients"]) = none := by
    rw [List.lookup_eq_none_iff]
    intro setting hsetting
    obtain ⟨-, field, hfield, hplace⟩ :=
      exists_of_settings h.known setting (List.mem_reverse.mp hsetting)
    rw [hplace, bne_iff_ne]
    intro heq
    have hdiverge := diverge_clients field hfield
    rw [← placeOf_inj heq] at hdiverge
    exact not_diverge_self _ hdiverge
  rw [get?_assignAll hsettles, hother, Option.none_or]

theorem map_value_of_isPlain {found field : Option String} (h : found = field)
    (hplain : ∀ text ∈ field, IsPlain text) : found.map value = field.map .text := by
  subst h
  cases found with
  | none => rfl
  | some text => exact congrArg some (value_of_isPlain (hplain text rfl))

theorem map_value_of_integer {α : Type} {found : Option String} {field : Option α}
    {number : α → Int} (h : found.map (Number.integer? ·.toList) = field.map (some ∘ number))
    (hfits : ∀ a ∈ field, Number.isInt64 (number a) = true) :
    found.map value = field.map fun a => .integer (number a) := by
  cases field with
  | none =>
    rw [Option.map_eq_none_iff.mp h]
    rfl
  | some a =>
    obtain ⟨text, rfl, hnumber⟩ := Option.map_eq_some_iff.mp h
    exact congrArg some (value_of_integer hnumber (hfits a rfl))

/-- A field of two layers, both of one kind. -/
theorem get?_over (h : environment.Overrides layer) {name : String} {path : List String}
    (hfield : (name, path) ∈ fieldPaths) {α : Type} {make : α → Data} {upper lower : Option α}
    (hupper : (environment.get? name).map value = upper.map make)
    (hlower : data.get? path = lower.map make) :
    (Settings.assignAll data environment.settings).get? path = (upper.or lower).map make := by
  rw [h.get?_field hfield, hupper, hlower]
  exact Option.map_or.symm

theorem holds (h : environment.Overrides layer) {lower : Settings.Layer} {clients : List Client}
    (hlower : Settings.Holds data lower clients) :
    Settings.Holds (Settings.assignAll data environment.settings) (layer.over lower) clients where
  sectioned := by
    refine hlower.sectioned.assignAll fun setting hsetting => ?_
    obtain ⟨-, field, hfield, hplace⟩ := exists_of_settings h.known setting hsetting
    obtain ⟨key, next, hpath⟩ := exists_of_mem field hfield
    exact ⟨key, next, [], by rw [hplace, hpath]⟩
  host :=
    have hvalue := map_value_of_isPlain h.host h.host_plain
    h.get?_over (by decide) hvalue hlower.host
  port :=
    have hvalue := map_value_of_integer h.port fun port _ => Number.isInt64_toNat port
    h.get?_over (by decide) hvalue hlower.port
  level :=
    have hvalue := map_value_of_isPlain h.level h.level_plain
    h.get?_over (by decide) hvalue hlower.level
  minStateLength :=
    have hvalue := map_value_of_integer h.minStateLength h.length_fits
    h.get?_over (by decide) hvalue hlower.minStateLength
  length_fits := by
    intro n hn
    rcases Option.or_eq_some_iff.mp hn with hupper | ⟨-, hlower'⟩
    · exact Number.lt_size_of_isInt64 (h.length_fits n hupper)
    · exact hlower.length_fits n hlower'
  clients := by
    rw [h.get?_clients]
    exact hlower.clients

end Overrides

/-- The variables that are no settings do not count. -/
theorem settings_filter (environment : Environment) :
    environment.settings =
      settings ⟨environment.entries.filter fun entry => IsSetting entry.1⟩ := by
  rw [settings, settings, List.filterMap_filter]
  refine List.filterMap_congr fun entry _ => ?_
  split
  · rfl
  · next hname =>
    cases hplace : place? entry.1 with
    | none => rfl
    | some place => exact absurd (isSetting_of_place hplace) (by simpa using hname)

theorem settings_eq_of_filter {environment other : Environment}
    (h : (other.entries.filter fun entry => IsSetting entry.1) =
      environment.entries.filter fun entry => IsSetting entry.1) :
    other.settings = environment.settings := by
  rw [settings_filter other, h, ← settings_filter]

end Environment

namespace Settings

/-- A field is what its variable says, else what the file says, else its default; the clients are
those of the file.  Only the variables that are settings count, and a file that is not there is as
good as an empty one. -/
theorem load_layered (directory : Directory) (environment : Environment) :
    (∀ path lower upper clients, FileHolds directory (path.getD "portico.toml") lower clients →
      environment.Overrides upper →
      loadFrom directory environment path = ((upper.over lower).settings clients).checked) ∧
    (∀ path other,
      (other.entries.filter fun entry => Environment.IsSetting entry.1) =
        (environment.entries.filter fun entry => Environment.IsSetting entry.1) →
      loadFrom directory other path = loadFrom directory environment path) ∧
    ¬Environment.IsSetting "PORTICO_CONFIG" ∧
    (∀ path another empty, directory.find? path = none →
      another.find? empty = some (.file "") → Directory.extension empty = "toml" →
      loadFrom directory environment (some path) = loadFrom another environment (some empty)) ∧
    loadFrom directory environment none = loadFrom directory environment (some "portico.toml") := by
  have hpath (directory : Directory) (environment : Environment) (path : Option String) :
      loadFrom directory environment path =
        load directory environment (path.getD "portico.toml") := by
    cases path <;> rfl
  refine ⟨?layered, ?settings_alone, by decide, ?missing, rfl⟩
  case layered =>
    intro path lower upper clients hfile hvariables
    obtain ⟨file, hfile, hlower⟩ := hfile.inFile
    rw [hpath, load, merged, hfile]
    exact ofData_of_holds (hvariables.holds hlower)
  case settings_alone =>
    intro path other hsame
    rw [hpath, hpath, load, load, merged, merged, Environment.settings_eq_of_filter hsame]
  case missing =>
    intro path another empty hmissing hempty htoml
    have hnone : inFile directory path = .ok [] := by rw [inFile, hmissing]
    have hnothing : inFile another empty = .ok [] := by
      simp only [inFile, hempty, ofFile, htoml]
      rfl
    rw [loadFrom, loadFrom, load, load, merged, merged, hnone, hnothing]

/-- A file with a host, a port and a client. -/
def webFile : String :=
  "[server]\nhost = \"::1\"\nport = 8081\n[[clients]]\nclient_id = \"web\"\n"

def webEntries : List (String × Data) :=
  [("server", .table [("host", .text "::1"), ("port", .integer 8081)]),
    ("clients", .list [.table [("client_id", .text "web")]])]

def webVariables : Environment :=
  ⟨[("PORTICO__SERVER__PORT", "9090"), ("PORTICO_CONFIG", "none.toml"),
    ("PORTICO__LOGGING__LEVEL", "Debug")]⟩

theorem holds_webEntries :
    Holds (.table webEntries) { host := "::1", port := some 8081 } [⟨"web", "", []⟩] where
  sectioned := by
    refine ⟨trivial, fun name hname inner hinner => ?_⟩
    simp only [sectionNames, List.mem_cons, List.not_mem_nil, or_false] at hname
    obtain rfl | rfl | rfl := hname <;> cases hinner
    trivial
  host := rfl
  port := rfl
  level := rfl
  minStateLength := rfl
  length_fits _ h := by cases h
  clients := ⟨_, rfl, .cons ⟨trivial, rfl, rfl, rfl⟩ .nil⟩

theorem overrides_webVariables :
    webVariables.Overrides { port := some 9090, level := "Debug" } where
  distinct := by decide
  known := by decide
  host := by decide
  host_plain _ h := by cases h
  port := by decide
  level := by decide
  level_plain := by
    rintro _ ⟨⟩
    exact ⟨by decide, by decide, by decide⟩
  minStateLength := by decide
  length_fits _ h := by cases h

/-- The port and the level of the variables, the host and the client of the file, and the default
length. -/
theorem load_web :
    loadFrom (.ofFiles [("portico.toml", webFile)]) webVariables none =
      .ok ⟨⟨"::1", 9090⟩, ⟨"Debug"⟩, ⟨8⟩, [⟨"web", "", []⟩]⟩ ∧
    loadFrom (.ofFiles [("portico.toml", webFile)]) ⟨webVariables.entries.eraseIdx 1⟩ none =
      loadFrom (.ofFiles [("portico.toml", webFile)]) webVariables none ∧
    loadFrom (.ofFiles []) webVariables (some "none.toml") =
      loadFrom (.ofFiles [("empty.toml", "")]) webVariables (some "empty.toml") := by
  have hfound : (Directory.ofFiles [("portico.toml", webFile)]).find? "portico.toml" =
      some (.file webFile) := by decide +kernel
  have hread : Format.toml.entries? webFile = some webEntries := by cbv
  have hknown : ∀ entry ∈ webEntries, entry.1 ∈ "clients" :: sectionNames := by
    simp [webEntries, sectionNames]
  have hfile := FileHolds.document hfound (by decide) hread hknown holds_webEntries
  obtain ⟨hlayered, hsettings, -⟩ :=
    load_layered (.ofFiles [("portico.toml", webFile)]) webVariables
  obtain ⟨-, -, -, hmissing, -⟩ := load_layered (.ofFiles []) webVariables
  refine ⟨?_, ?_, ?_⟩
  · rw [hlayered none _ _ _ hfile overrides_webVariables]
    rfl
  · exact hsettings none _ (by decide)
  · exact hmissing _ _ _ (by decide +kernel) (by decide +kernel) (by decide)

end Settings

end OAuthEndpoint
