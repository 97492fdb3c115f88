import GatewayPing.Proofs.Config.Settings
import GatewayPing.Proofs.Text.Utf8

/-! Configuration files. A file that holds an object is accepted if and only if its members spell
settings of different fields, and then these settings take the places of the defaults
(`load_object_iff`). From this and from how a configuration is written follows what files do to the
defaults, and that a configuration survives being written (`load_overrides`). -/
namespace GatewayPing.Config

open Json Text

variable {entries : List (List Item × Tree)} {settings : List Setting} {seen : List String}

/-- The members of an object spell settings, in their order: every member is a setting under its
name, or has a name that no field has. -/
inductive Spells : List (List Item × Tree) → List Setting → Prop
  | nothing : Spells [] []
  | unknown {name : List Item} {text : String} {t : Tree} {entries : List (List Item × Tree)}
      {settings : List Setting} (called : nameText? name = some text) (apart : text ∉ names)
      (later : Spells entries settings) : Spells ((name, t) :: entries) settings
  | setting {name : List Item} {t : Tree} {s : Setting} {entries : List (List Item × Tree)}
      {settings : List Setting} (called : nameText? name = some s.name)
      (value : Setting.read? s.name t = some s) (later : Spells entries settings) :
      Spells ((name, t) :: entries) (s :: settings)

/-- The field that a member is for, if there is one. -/
def fieldName? (entry : List Item × Tree) : Option String :=
  (nameText? entry.1).filter (· ∈ names)

/-- The fields that members are for, in the order of the members. -/
def fieldNames (entries : List (List Item × Tree)) : List String := entries.filterMap fieldName?

/-- The value of a member is out of the type or the range of the field of its name. -/
def Misfit (entry : List Item × Tree) : Prop :=
  ∃ name, fieldName? entry = some name ∧ Setting.read? name entry.2 = none

private theorem fieldName?_eq_some {entry : List Item × Tree} {name : String} :
    fieldName? entry = some name ↔ nameText? entry.1 = some name ∧ name ∈ names := by
  simp [fieldName?, Option.filter_eq_some_iff]

private theorem fieldName?_unknown {entry : List Item × Tree} {text : String}
    (called : nameText? entry.1 = some text) (apart : text ∉ names) : fieldName? entry = none := by
  simp [fieldName?, called, apart]

private theorem Spells.fieldNames (spells : Spells entries settings) :
    fieldNames entries = settings.map Setting.name := by
  induction spells with
  | nothing => rfl
  | unknown called apart later ih =>
    rw [Config.fieldNames, List.filterMap_cons_none (fieldName?_unknown called apart)]
    exact ih
  | @setting name t s entries settings called value later ih =>
    have first : fieldName? (name, t) = some s.name :=
      fieldName?_eq_some.mpr ⟨called, s.name_mem⟩
    rw [Config.fieldNames, List.filterMap_cons_some first]
    exact congrArg (s.name :: ·) ih

private theorem Spells.fits (spells : Spells entries settings) :
    ∀ entry ∈ entries, ¬Misfit entry := by
  induction spells with
  | nothing => exact fun _ none => absurd none List.not_mem_nil
  | unknown called apart later ih =>
    rintro entry member ⟨name, field, unread⟩
    rcases List.mem_cons.mp member with rfl | inside
    · cases (fieldName?_unknown called apart).symm.trans field
    · exact ih entry inside ⟨name, field, unread⟩
  | setting called value later ih =>
    rintro entry member ⟨name, field, unread⟩
    rcases List.mem_cons.mp member with rfl | inside
    · obtain rfl := Option.some.inj (called.symm.trans (fieldName?_eq_some.mp field).1)
      cases value.symm.trans unread
    · exact ih entry inside ⟨name, field, unread⟩

private theorem Spells.named (spells : Spells entries settings) :
    ∀ entry ∈ entries, nameText? entry.1 ≠ none := by
  induction spells with
  | nothing => exact fun _ none => absurd none List.not_mem_nil
  | unknown called apart later ih =>
    exact List.forall_mem_cons.mpr ⟨called ▸ Option.some_ne_none _, ih⟩
  | setting called value later ih =>
    exact List.forall_mem_cons.mpr ⟨called ▸ Option.some_ne_none _, ih⟩

/-- Members with names, whose values fit the fields of these names, spell settings. -/
theorem exists_spells (named : ∀ entry ∈ entries, nameText? entry.1 ≠ none)
    (fits : ∀ entry ∈ entries, ¬Misfit entry) : ∃ settings, Spells entries settings := by
  induction entries with
  | nil => exact ⟨[], .nothing⟩
  | cons entry entries ih =>
    obtain ⟨called, named⟩ := List.forall_mem_cons.mp named
    obtain ⟨fitting, fits⟩ := List.forall_mem_cons.mp fits
    obtain ⟨settings, spells⟩ := ih named fits
    obtain ⟨text, called⟩ := Option.ne_none_iff_exists'.mp called
    by_cases known : text ∈ names
    · cases read : Setting.read? text entry.2 with
      | none => exact absurd ⟨text, fieldName?_eq_some.mpr ⟨called, known⟩, read⟩ fitting
      | some s =>
        obtain rfl := Setting.read?_name read
        exact ⟨s :: settings, .setting called read spells⟩
    · exact ⟨settings, .unknown called known spells⟩

/-- Members that spell settings of different fields put them in place of those of a
configuration. -/
theorem changed?_spells (spells : Spells entries settings)
    (distinct : (settings.map Setting.name).Nodup) (new : ∀ s ∈ settings, s.name ∉ seen)
    (c : Config) : changed? names change? seen c entries = some (c.overridden settings) := by
  induction spells generalizing seen c with
  | nothing => rfl
  | unknown called apart later ih =>
    rw [changed?, called, Option.bind_some, if_neg apart]
    exact ih distinct new c
  | @setting name t s entries settings called value later ih =>
    obtain ⟨apart, distinct⟩ := List.nodup_cons.mp distinct
    rw [changed?, called, Option.bind_some, if_pos s.name_mem, if_neg (new s List.mem_cons_self),
      change?, value, Option.map_some, Option.bind_some]
    refine ih distinct ?_ (s.put c)
    intro u member
    rw [List.mem_cons, not_or]
    refine ⟨fun same => apart (List.mem_map.mpr ⟨u, member, same⟩), ?_⟩
    exact new u (List.mem_cons_of_mem s member)

/-- Members that make something of a configuration spell settings of different fields, and of none
that was seen before. -/
theorem spells_of_changed? {c d : Config}
    (changed : changed? names change? seen c entries = some d) :
    ∃ settings, Spells entries settings ∧ (settings.map Setting.name).Nodup ∧
      ∀ s ∈ settings, s.name ∉ seen := by
  induction entries generalizing seen c with
  | nil => exact ⟨[], .nothing, List.nodup_nil, fun s none => absurd none List.not_mem_nil⟩
  | cons entry entries ih =>
    obtain ⟨name, t⟩ := entry
    rw [changed?, Option.bind_eq_some_iff] at changed
    obtain ⟨text, called, changed⟩ := changed
    split at changed
    · rename_i known
      split at changed
      · cases changed
      · rename_i new
        obtain ⟨change, found, changed⟩ := Option.bind_eq_some_iff.mp changed
        obtain ⟨s, read, rfl⟩ := Option.map_eq_some_iff.mp found
        obtain rfl := Setting.read?_name read
        obtain ⟨settings, spells, distinct, others⟩ := ih changed
        refine ⟨s :: settings, .setting called read spells, ?_, ?_⟩
        · rw [List.map_cons, List.nodup_cons]
          refine ⟨?_, distinct⟩
          intro member
          obtain ⟨u, inside, same⟩ := List.mem_map.mp member
          exact others u inside (same ▸ List.mem_cons_self)
        · intro u member
          rcases List.mem_cons.mp member with rfl | inside
          · exact new
          · exact fun old => others u inside (List.mem_cons_of_mem _ old)
    · rename_i unknown
      obtain ⟨settings, spells, rest⟩ := ih changed
      exact ⟨settings, .unknown called unknown spells, rest⟩

/-! Files. -/

/-- A file that holds a value, with blanks around it. -/
def fileOf (before : List Space) (t : Tree) (after : List Space) : File :=
  .contents (spelled (blanks before ++ t.chars ++ blanks after))

/-- What is spelled can be read as text. -/
theorem read_spelled (cs : List Char) : (File.contents (spelled cs)).read = .ok (spelled cs) := by
  have decoded := Utf8.decode_encode (String.ofList cs)
  rw [Utf8.encode, String.toList_ofList] at decoded
  have same : Utf8.decode (spelled cs) = .ok (String.ofList cs) := decoded
  simp only [File.read, same]

variable {t : Tree}

/-- A file with an object is loaded as what the members make of the defaults. -/
theorem load_changed (object : t.entries? = some entries) (path : String)
    (before after : List Space) :
    (∀ c, changed? names change? [] default entries = some c →
      load path (fileOf before t after) = .ok c) ∧
    (changed? names change? [] default entries = none →
      ∃ cause, load path (fileOf before t after) = .error (.parse path cause)) := by
  have contents := read_spelled (blanks before ++ t.chars ++ blanks after)
  simp only [load, fileOf, contents, ofJson]
  rcases record_read_object "ClientConfig" default fields_read object before after with
    ⟨c, changed, read⟩ | ⟨unchanged, fault, refused⟩
  · rw [document] at read
    refine ⟨fun d other => ?_, fun none => ?_⟩
    · obtain rfl := Option.some.inj (changed.symm.trans other)
      rw [read]
      rfl
    · cases changed.symm.trans none
  · rw [document] at refused
    refine ⟨fun d some => ?_, fun _ => ?_⟩
    · cases unchanged.symm.trans some
    · rw [refused]
      exact ⟨_, rfl⟩

/-- A file with an object is accepted if and only if its members spell settings of different
fields. -/
theorem load_object_iff (object : t.entries? = some entries) (path : String)
    (before after : List Space) (c : Config) :
    load path (fileOf before t after) = .ok c ↔
      ∃ settings, Spells entries settings ∧ (settings.map Setting.name).Nodup ∧
        c = default.overridden settings := by
  obtain ⟨accepted, refused⟩ := load_changed object path before after
  constructor
  · intro loaded
    cases changed : changed? names change? [] default entries with
    | none =>
      obtain ⟨cause, failed⟩ := refused changed
      cases loaded.symm.trans failed
    | some d =>
      obtain ⟨settings, spells, distinct, new⟩ := spells_of_changed? changed
      have same := changed?_spells spells distinct new default
      refine ⟨settings, spells, distinct, ?_⟩
      exact Except.ok.inj (loaded.symm.trans (accepted _ same))
  · rintro ⟨settings, spells, distinct, rfl⟩
    exact accepted _ (changed?_spells spells distinct (fun _ _ => List.not_mem_nil) default)

/-- A file with an object is refused if its members spell no settings of different fields. -/
theorem load_refused (object : t.entries? = some entries) (path : String)
    (before after : List Space)
    (wrong : ∀ settings, Spells entries settings → ¬(settings.map Setting.name).Nodup) :
    ∃ cause, load path (fileOf before t after) = .error (.parse path cause) := by
  refine (load_changed object path before after).2 ?_
  rw [Option.eq_none_iff_forall_ne_some]
  intro c changed
  obtain ⟨settings, spells, distinct, -⟩ := spells_of_changed? changed
  exact wrong settings spells distinct

/-! Writing. -/

/-- Settings are written as an object whose members spell them. -/
theorem settings_text (settings : List Setting) : ∃ t : Tree, ∃ entries,
    t.entries? = some entries ∧ Spells entries settings ∧
      t.text = writeObject (settings.map fun s => (s.name, s.json)) := by
  have members : ∃ ps : List (String × Tree),
      ps.map (fun p => (p.1, p.2.text)) = settings.map (fun s => (s.name, s.json)) ∧
        ∀ entries, entries.map (fun e => (nameText? e.1, e.2)) = ps.map (fun p => (some p.1, p.2)) →
          Spells entries settings := by
    induction settings with
    | nil =>
      refine ⟨[], rfl, fun entries none => ?_⟩
      cases List.map_eq_nil_iff.mp none
      exact .nothing
    | cons s settings ih =>
      obtain ⟨ps, texts, spell⟩ := ih
      obtain ⟨t, text, means⟩ := s.writes_json
      refine ⟨(s.name, t) :: ps, ?_, fun entries named => ?_⟩
      · rw [List.map_cons, texts, List.map_cons, ← text]
        rfl
      · obtain ⟨entry, later, rfl, first, others⟩ := List.map_eq_cons_iff.mp named
        obtain ⟨called, rfl⟩ := Prod.mk.inj first
        exact .setting called means (spell later others)
  obtain ⟨ps, texts, spell⟩ := members
  obtain ⟨t, entries, object, text, named⟩ := object_text ps
  exact ⟨t, entries, object, spell entries named, by rw [text, texts]⟩

/-- A configuration is loaded as it was written. -/
theorem load_toJson (path : String) (c : Config) : load path (.contents c.toJson) = .ok c := by
  obtain ⟨t, entries, object, spells, text⟩ := settings_text c.settings
  have file : fileOf [] t [] = .contents c.toJson := by
    rw [toJson_settings, ← text, fileOf, Tree.text]
    simp only [blanks, List.map_nil, List.nil_append, List.append_nil]
  rw [← file, load_object_iff object]
  exact ⟨c.settings, spells, c.settings_distinct, (overridden_settings default c).symm⟩

/-- What files do to the defaults, and what becomes of a configuration that is written. -/
structure Overriding (path : String) : Prop where
  /-- Settings of different fields, in any order and among members of any other names, take the
  places of the defaults of their fields. -/
  loaded : ∀ (t : Tree) (entries : List (List Item × Tree)) (settings : List Setting)
    (before after : List Space), t.entries? = some entries → Spells entries settings →
    (settings.map Setting.name).Nodup →
      load path (fileOf before t after) = .ok (default.overridden settings)
  /-- All other defaults stay. -/
  exactly : ∀ settings : List Setting, (settings.map Setting.name).Nodup →
    ∀ s, s ∈ (default.overridden settings).settings ↔
      s ∈ settings ∨ s ∈ default.settings ∧ ∀ o ∈ settings, o.name ≠ s.name
  /-- There is no setting that cannot be written. -/
  spelled : ∀ settings : List Setting, ∃ t : Tree, ∃ entries,
    t.entries? = some entries ∧ Spells entries settings
  /-- An object is refused in which a field has two members, or in which the value of a field is out
  of its type or range. -/
  refused : ∀ (t : Tree) (entries : List (List Item × Tree)) (before after : List Space),
    t.entries? = some entries → (¬(fieldNames entries).Nodup ∨ ∃ entry ∈ entries, Misfit entry) →
      ∃ cause, load path (fileOf before t after) = .error (.parse path cause)
  /-- No other object is refused, unless the name of a member is no text. -/
  only : ∀ (t : Tree) (entries : List (List Item × Tree)) (before after : List Space),
    t.entries? = some entries → (fieldNames entries).Nodup → (∀ entry ∈ entries, ¬Misfit entry) →
    (∀ entry ∈ entries, nameText? entry.1 ≠ none) →
      ∃ settings, Spells entries settings ∧
        load path (fileOf before t after) = .ok (default.overridden settings)
  unnamed : ∀ (t : Tree) (entries : List (List Item × Tree)) (before after : List Space),
    t.entries? = some entries → (∃ entry ∈ entries, nameText? entry.1 = none) →
      ∃ cause, load path (fileOf before t after) = .error (.parse path cause)
  /-- A configuration is loaded as it was written. -/
  written : ∀ c : Config, load path (.contents c.toJson) = .ok c
  /-- What was loaded from a file is loaded again from what is written of it. -/
  again : ∀ (file : File) (c : Config), load path file = .ok c →
    load path (.contents c.toJson) = load path file

/-- A configuration file overrides the defaults field by field, or is refused as a whole, and a
configuration survives being written. -/
theorem load_overrides (path : String) : Overriding path := by
  constructor
  case loaded =>
    intro t entries settings before after object spells distinct
    exact (load_object_iff object path before after _).mpr ⟨settings, spells, distinct, rfl⟩
  case exactly => exact fun settings distinct => mem_overridden default distinct
  case spelled =>
    intro settings
    obtain ⟨t, entries, object, spells, -⟩ := settings_text settings
    exact ⟨t, entries, object, spells⟩
  case refused =>
    intro t entries before after object wrong
    refine load_refused object path before after fun settings spells distinct => ?_
    rcases wrong with twice | ⟨entry, member, misfit⟩
    · exact twice (spells.fieldNames ▸ distinct)
    · exact spells.fits entry member misfit
  case only =>
    intro t entries before after object distinct fits named
    obtain ⟨settings, spells⟩ := exists_spells named fits
    refine ⟨settings, spells, (load_object_iff object path before after _).mpr ?_⟩
    exact ⟨settings, spells, spells.fieldNames ▸ distinct, rfl⟩
  case unnamed =>
    rintro t entries before after object ⟨entry, member, nameless⟩
    exact load_refused object path before after fun settings spells _ =>
      spells.named entry member nameless
  case written => exact load_toJson path
  case again =>
    intro file c loaded
    rw [loaded, load_toJson]

/-- Names have to be texts even where they are ignored. This object is refused, although no member
in it is for a field. -/
theorem half_name_not_loaded :
    let half : List Item := [.code (.small 3) (.decimal 8) (.decimal 0) (.decimal 0)]
    let t : Tree := .object (.last [] half [] [] (oneDigit false '0' rfl) [])
    fileOf [] t [] = .contents (Utf8.encode "\x7b\"\\ud800\":0\x7d") ∧
      (∃ entries, t.entries? = some entries ∧ fieldNames entries = []) ∧
      load "a.json" (fileOf [] t []) ≠ .ok default ∧
      ∃ cause, load "a.json" (fileOf [] t []) = .error (.parse "a.json" cause) := by
  intro half t
  have nameless : nameText? half = none := by decide
  have refused : ∃ cause, load "a.json" (fileOf [] t []) = .error (.parse "a.json" cause) :=
    load_refused rfl "a.json" [] [] fun settings spells _ =>
      spells.named (half, oneDigit false '0' rfl) List.mem_cons_self nameless
  refine ⟨by decide, ⟨_, rfl, by decide⟩, fun loaded => ?_, refused⟩
  obtain ⟨cause, failed⟩ := refused
  cases loaded.symm.trans failed

/-- The name of a field, with its first letter written by its number. -/
def endpointName : List Item :=
  [.code (.decimal 0) (.decimal 0) (.decimal 6) (.decimal 5), .plain 'n' (by decide),
    .plain 'd' (by decide), .plain 'p' (by decide), .plain 'o' (by decide), .plain 'i' (by decide),
    .plain 'n' (by decide), .plain 't' (by decide)]

theorem load_overrides_endpoint :
    load "a.json" (fileOf [.space] (.object (.more [] [.plain 'x' (by decide)] [] []
      (.emptyList [.tab]) [] (.last [.space] endpointName [.space] []
        (.string [.plain 'é' (by decide)]) []))) [.lineFeed]) =
          .ok { default with endpoint := "é" } ∧
    ∃ cause, load "a.json" (fileOf [] (.object (.more [] endpointName [] [] (.string []) []
      (.last [] endpointName [] [] .null []))) []) = .error (.parse "a.json" cause) := by
  have other : nameText? [.plain 'x' (by decide)] = some "x" := by decide
  have name : nameText? endpointName = some "endpoint" := by decide
  have spells : Spells [([.plain 'x' (by decide)], .emptyList [.tab]),
      (endpointName, .string [.plain 'é' (by decide)])] [.endpoint "é"] :=
    .unknown other (by decide) (.setting name rfl .nothing)
  refine ⟨(load_overrides "a.json").loaded _ _ [.endpoint "é"] _ _ rfl spells (by decide), ?_⟩
  exact (load_overrides "a.json").refused _ _ _ _ rfl (.inl (by decide))

end GatewayPing.Config
