import GatewayPing.Config
import GatewayPing.Proofs.Json.Texts

/-! A configuration as its settings, each a field with a value. The reader of a field reads the
settings of its name (`fields_read`), a setting is written so that it is read as itself
(`Setting.writes_json`), and a configuration that is overridden by settings has these settings and
its own of all other names (`mem_overridden`). -/
namespace GatewayPing.Config

open Json

/-- A field of a configuration with a value. -/
inductive Setting where
  | endpoint (v : String)
  | timeout (v : Option UInt64)
  | maxStreamMessages (v : UInt32)
  | messageInterval (v : UInt32)
  | responseDelay (v : UInt64)
  | unaryHeaders (v : Headers)
  | streamingHeaders (v : Headers)
  deriving DecidableEq

/-- The names of the fields. -/
def names : List String := fields.map (·.name)

/-- The number of 32 bits that a value is. -/
def uint32? (t : Tree) : Option UInt32 := (t.nat? 0xFFFFFFFF).map UInt32.ofNat

/-- The number of 64 bits that a value is. -/
def uint64? (t : Tree) : Option UInt64 := (t.nat? 0xFFFFFFFFFFFFFFFF).map UInt64.ofNat

/-- The headers that a list of pairs of strings is. -/
def headers? : Tree → Option Headers := Tree.list? (Tree.pair? Tree.text? Tree.text?)

namespace Setting

/-- The name of the field. -/
def name : Setting → String
  | .endpoint _ => "endpoint"
  | .timeout _ => "timeout_ms"
  | .maxStreamMessages _ => "max_stream_messages"
  | .messageInterval _ => "message_interval_ms"
  | .responseDelay _ => "response_delay_ms"
  | .unaryHeaders _ => "unary_headers"
  | .streamingHeaders _ => "streaming_headers"

/-- Puts the value in place of that of a configuration. -/
def put : Setting → Config → Config
  | .endpoint v, c => { c with endpoint := v }
  | .timeout v, c => { c with timeout := v }
  | .maxStreamMessages v, c => { c with maxStreamMessages := v }
  | .messageInterval v, c => { c with messageInterval := v }
  | .responseDelay v, c => { c with responseDelay := v }
  | .unaryHeaders v, c => { c with unaryHeaders := v }
  | .streamingHeaders v, c => { c with streamingHeaders := v }

/-- The setting that a value is under the name of a field, if it is within the field's type and
range. -/
def read? : String → Tree → Option Setting
  | "endpoint", t => t.text?.map .endpoint
  | "timeout_ms", t => (t.optional? uint64?).map .timeout
  | "max_stream_messages", t => (uint32? t).map .maxStreamMessages
  | "message_interval_ms", t => (uint32? t).map .messageInterval
  | "response_delay_ms", t => (uint64? t).map .responseDelay
  | "unary_headers", t => (headers? t).map .unaryHeaders
  | "streaming_headers", t => (headers? t).map .streamingHeaders
  | _, _ => none

/-- The value as it is written. -/
def json : Setting → Bytes
  | .endpoint v => writeString v
  | .timeout none => writeNull
  | .timeout (some v) => writeNat v.toNat
  | .maxStreamMessages v => writeNat v.toNat
  | .messageInterval v => writeNat v.toNat
  | .responseDelay v => writeNat v.toNat
  | .unaryHeaders v => headersJson v
  | .streamingHeaders v => headersJson v

theorem name_mem (s : Setting) : s.name ∈ names := by
  cases s <;> simp [names, fields, name, Field.of]

theorem read?_name {text : String} {t : Tree} {s : Setting} (read : read? text t = some s) :
    s.name = text := by
  unfold read? at read
  split at read
  case h_8 => cases read
  all_goals
    obtain ⟨v, -, rfl⟩ := Option.map_eq_some_iff.mp read
    rfl

end Setting

/-! Reading. -/

private theorem uint32_reads : uint32.Reads uint32? := by
  have reads := (natural_reads 0xFFFFFFFF "u32" (by decide)).map fun n => UInt32.ofNat n.toNat
  simp only [Option.map_map] at reads
  exact reads

private theorem uint64_reads : uint64.Reads uint64? := by
  have reads := (natural_reads 0xFFFFFFFFFFFFFFFF "u64" (by decide)).map
    fun n => UInt64.ofNat n.toNat
  simp only [Option.map_map] at reads
  exact reads

private theorem headers_reads :
    headers.Reads headers? := list_reads (pair_reads string_reads string_reads)

/-- How a value under the name of a field changes a configuration. -/
def change? (name : String) (t : Tree) : Option (Config → Config) :=
  (Setting.read? name t).map Setting.put

/-- A field reads settings if its value is read as what they hold. -/
theorem field_reads {α : Type} {name : String} {value : Reader α} {set : α → Config → Config}
    {meaning? : Tree → Option α} (setting : α → Setting) (reads : value.Reads meaning?)
    (named : ∀ t, Setting.read? name t = (meaning? t).map setting)
    (puts : ∀ v, (setting v).put = set v) :
    (Field.of name value set).update.Reads (change? name) := by
  have same : change? name = fun t => (meaning? t).map set := by
    funext t
    rw [change?, named, Option.map_map]
    exact congrArg (Option.map · (meaning? t)) (funext puts)
  rw [same]
  exact reads.map set

/-- Every field reads the settings of its name. -/
theorem fields_read : ∀ f ∈ fields, f.update.Reads (change? f.name) := by
  simp only [fields, List.forall_mem_cons]
  refine ⟨?_, ?_, ?_, ?_, ?_, ?_, ?_, fun _ none => absurd none List.not_mem_nil⟩
  · exact field_reads .endpoint string_reads (fun _ => rfl) fun _ => rfl
  · exact field_reads .timeout (optional_reads uint64_reads) (fun _ => rfl) fun _ => rfl
  · exact field_reads .maxStreamMessages uint32_reads (fun _ => rfl) fun _ => rfl
  · exact field_reads .messageInterval uint32_reads (fun _ => rfl) fun _ => rfl
  · exact field_reads .responseDelay uint64_reads (fun _ => rfl) fun _ => rfl
  · exact field_reads .unaryHeaders headers_reads (fun _ => rfl) fun _ => rfl
  · exact field_reads .streamingHeaders headers_reads (fun _ => rfl) fun _ => rfl

/-! Writing. -/

private theorem writes_headers (hs : Headers) : Writes headers? (headersJson hs) hs :=
  writes_list fun (name, value) _ => writes_pair (writes_string name) (writes_string value)

private theorem writes_uint32 (v : UInt32) : Writes uint32? (writeNat v.toNat) v := by
  have writes := (writes_nat (Nat.le_of_lt_succ v.toNat_lt)).map UInt32.ofNat
  rwa [UInt32.ofNat_toNat] at writes

private theorem writes_uint64 (v : UInt64) : Writes uint64? (writeNat v.toNat) v := by
  have writes := (writes_nat (Nat.le_of_lt_succ v.toNat_lt)).map UInt64.ofNat
  rwa [UInt64.ofNat_toNat] at writes

/-- A setting is read as it was written. -/
theorem Setting.writes_json (s : Setting) : Writes (Setting.read? s.name) s.json s := by
  cases s with
  | endpoint v => exact (writes_string v).map Setting.endpoint
  | timeout v =>
    cases v with
    | none => exact ⟨.null, rfl, rfl⟩
    | some v => exact ((writes_uint64 v).present rfl).map Setting.timeout
  | maxStreamMessages v => exact (writes_uint32 v).map Setting.maxStreamMessages
  | messageInterval v => exact (writes_uint32 v).map Setting.messageInterval
  | responseDelay v => exact (writes_uint64 v).map Setting.responseDelay
  | unaryHeaders v => exact (writes_headers v).map Setting.unaryHeaders
  | streamingHeaders v => exact (writes_headers v).map Setting.streamingHeaders

/-! Configurations. -/

/-- All settings of a configuration. -/
def settings (c : Config) : List Setting :=
  [.endpoint c.endpoint, .timeout c.timeout, .maxStreamMessages c.maxStreamMessages,
    .messageInterval c.messageInterval, .responseDelay c.responseDelay,
    .unaryHeaders c.unaryHeaders, .streamingHeaders c.streamingHeaders]

/-- A configuration with settings put in place of its own. -/
def overridden (c : Config) (settings : List Setting) : Config :=
  settings.foldl (fun c s => s.put c) c

theorem toJson_settings (c : Config) :
    c.toJson = writeObject (c.settings.map fun s => (s.name, s.json)) := by
  obtain ⟨_, timeout, _, _, _, _, _⟩ := c
  cases timeout <;> rfl

theorem overridden_settings (c d : Config) : c.overridden d.settings = d := rfl

/-- Every field is a setting of a configuration once. -/
theorem settings_names (c : Config) : c.settings.map Setting.name = names := rfl

theorem settings_distinct (c : Config) : (c.settings.map Setting.name).Nodup := by
  rw [settings_names]
  decide

/-- A setting takes the place of the one of its name. -/
theorem settings_put (c : Config) (t : Setting) :
    (t.put c).settings = c.settings.map fun s => if s.name = t.name then t else s := by
  cases t <;> rfl

private theorem mem_put (c : Config) (s t : Setting) :
    s ∈ (t.put c).settings ↔ s = t ∨ s ∈ c.settings ∧ t.name ≠ s.name := by
  rw [settings_put, List.mem_map]
  constructor
  · rintro ⟨o, own, rfl⟩
    by_cases same : o.name = t.name
    · exact .inl (if_pos same)
    · rw [if_neg same]
      exact .inr ⟨own, Ne.symm same⟩
  · rintro (rfl | ⟨own, apart⟩)
    · obtain ⟨o, own, same⟩ := List.mem_map.mp (c.settings_names ▸ s.name_mem)
      exact ⟨o, own, if_pos same⟩
    · exact ⟨s, own, if_neg (Ne.symm apart)⟩

/-- Settings of different names take the places of those that a configuration has of their names,
and all others stay. -/
theorem mem_overridden (c : Config) {settings : List Setting}
    (distinct : (settings.map Setting.name).Nodup) (s : Setting) :
    s ∈ (c.overridden settings).settings ↔
      s ∈ settings ∨ s ∈ c.settings ∧ ∀ t ∈ settings, t.name ≠ s.name := by
  induction settings generalizing c with
  | nil => simp [overridden]
  | cons t later ih =>
    obtain ⟨apart, distinct⟩ := List.nodup_cons.mp distinct
    have others : ∀ u ∈ later, u.name ≠ t.name :=
      fun u member same => apart (List.mem_map.mpr ⟨u, member, same⟩)
    have step := ih (t.put c) distinct
    rw [mem_put] at step
    refine Iff.trans step ?_
    rw [List.mem_cons, List.forall_mem_cons]
    constructor
    · rintro (member | ⟨rfl | ⟨own, first⟩, rest⟩)
      · exact .inl (.inr member)
      · exact .inl (.inl rfl)
      · exact .inr ⟨own, first, rest⟩
    · rintro ((rfl | member) | ⟨own, first, rest⟩)
      · exact .inr ⟨.inl rfl, others⟩
      · exact .inl member
      · exact .inr ⟨.inr ⟨own, first⟩, rest⟩

end GatewayPing.Config
