import GatewayPing.Gateway
import GatewayPing.Proofs.Text.Trim
import GatewayPing.RequestId

/-! What a request carries of its headers. Of the headers of one name the last counts, so that a
session's identifier takes the place of whatever the configuration says under that name, in any
letter case. Main statement: `Metadata.collect_identified`. -/
namespace GatewayPing

namespace Headers

variable {hs : Headers} {name value : String}

/-- After a value was put there is no other of its name. -/
theorem filter_put (hs : Headers) (name value : String) :
    (hs.put name value).filter (·.1 == name) = [(name, value)] := by
  have gone : (hs.without name).filter (·.1 == name) = [] := by
    simp [without, List.filter_filter]
  rw [put, List.filter_append, gone]
  simp

private theorem mem_put {h : String × String} (member : h ∈ hs.put name value) :
    h ∈ hs ∨ h = (name, value) := by
  rcases List.mem_append.mp member with kept | put
  · exact .inl (List.mem_filter.mp kept).1
  · exact .inr (List.mem_singleton.mp put)

/-- The first value of a name is the first that is left when the others are dropped. -/
theorem first?_eq_head? (hs : Headers) (name : String) :
    hs.first? name = ((hs.filter (·.1 == name)).head?).map (·.2) := by
  rw [first?, List.head?_filter]

end Headers

namespace RequestId

/-- The characters of an identifier. -/
def alphabet : List Char := '-' :: (List.range 16).map Nat.digitChar

private theorem digit_mem (id : RequestId) (index : Nat) : id.digit index ∈ alphabet := by
  have written (n : Nat) (small : n < 16) : Nat.digitChar n ∈ alphabet :=
    List.mem_cons_of_mem _ (List.mem_map.mpr ⟨n, List.mem_range.mpr small, rfl⟩)
  unfold digit
  split
  · exact written 4 (by decide)
  · split
    · exact written _ (by omega)
    · exact written _ (Nat.mod_lt _ (by decide))

private theorem text_mem (id : RequestId) : ∀ c ∈ id.text.toList, c ∈ alphabet := by
  have grouped (start length : Nat) : ∀ c ∈ id.group start length, c ∈ alphabet := by
    intro c member
    obtain ⟨i, -, rfl⟩ := List.mem_map.mp member
    exact id.digit_mem (start + i)
  have hyphen : '-' ∈ alphabet := List.mem_cons_self
  intro c member
  simp only [text, String.toList_ofList, List.cons_append, List.append_assoc, List.mem_append,
    List.mem_cons] at member
  rcases member with h | rfl | h | rfl | h | rfl | h | rfl | h
  all_goals first | exact hyphen | exact grouped _ _ c h

theorem text_isValue (id : RequestId) : Metadata.isValue id.text = true := by
  have plain : ∀ c ∈ alphabet, Metadata.isValueChar c = true := List.all_eq_true.mp (by decide)
  exact List.all_eq_true.mpr fun c member => plain c (id.text_mem c member)

/-- A gateway takes an identifier for one. -/
theorem text_identifies (id : RequestId) : Gateway.identifies id.text = true := by
  have visible : ∀ c ∈ alphabet,
      (c == '\t' || (0x20 ≤ c.toNat && c.toNat < 0x7f)) = true := List.all_eq_true.mp (by decide)
  have solid : ∀ c ∈ alphabet, (!Text.isBlank c) = true := List.all_eq_true.mp (by decide)
  rw [Gateway.identifies, Bool.and_eq_true]
  constructor
  · exact List.all_eq_true.mpr fun c member => visible c (id.text_mem c member)
  · have filled : id.digit 0 ∈ id.text.toList := by
      simp [text, group, List.range_succ]
    rw [Bool.not_eq_true', List.isEmpty_eq_false_iff]
    intro blank
    have shown := solid _ (id.digit_mem 0)
    rw [Text.trim_eq_nil.mp blank _ filled] at shown
    cases shown

end RequestId

namespace Metadata

variable {hs more collected : Headers}

/-- A header that can be sent. -/
structure Valid (h : String × String) : Prop where
  key : isKey h.1 = true
  value : isValue h.2 = true

/-- A header that is in order and not of those by which the protocol talks about calls. -/
structure Proper (h : String × String) : Prop where
  key : isKey h.1 = true
  value : isValue h.2 = true
  foreign : ¬ "grpc-".toList <+: (Headers.lower h.1).toList

/-- Headers are collected if all of them are in order, and under their names in lower case. -/
theorem collect_ok (collected : Headers) (valid : ∀ h ∈ hs, Valid h) :
    ∃ all, collect collected hs = .ok all ∧
      ∀ h ∈ all, h ∈ collected ∨ ∃ g ∈ hs, h = (Headers.lower g.1, g.2) := by
  induction hs generalizing collected with
  | nil => exact ⟨collected, rfl, fun h member => .inl member⟩
  | cons g hs ih =>
    obtain ⟨key, value⟩ := g
    obtain ⟨goodKey, goodValue⟩ := valid (key, value) List.mem_cons_self
    obtain ⟨all, done, origin⟩ := ih (collected.put (Headers.lower key) value) fun h member =>
      valid h (List.mem_cons_of_mem _ member)
    refine ⟨all, ?_, ?_⟩
    · simpa [collect, goodKey, goodValue] using done
    · intro h member
      rcases origin h member with earlier | ⟨g, inside, same⟩
      · rcases Headers.mem_put earlier with old | new
        · exact .inl old
        · exact .inr ⟨(key, value), List.mem_cons_self, new⟩
      · exact .inr ⟨g, List.mem_cons_of_mem _ inside, same⟩

theorem collect_append (collected : Headers) (hs more : Headers) :
    collect collected (hs ++ more) = (collect collected hs).bind (collect · more) := by
  induction hs generalizing collected with
  | nil => rfl
  | cons g hs ih =>
    obtain ⟨key, value⟩ := g
    simp only [List.cons_append, collect]
    split
    · rfl
    · split
      · rfl
      · exact ih _

/-- Headers to which a last one is added carry it, and no other of its name. The others are as they
were written, apart from the letter case of their names. -/
theorem collect_last (valid : ∀ h ∈ hs, Valid h) {key value : String}
    (goodKey : isKey key = true) (goodValue : isValue value = true) :
    ∃ all, collect [] (hs ++ [(key, value)]) = .ok all ∧
      all.filter (·.1 == Headers.lower key) = [(Headers.lower key, value)] ∧
      ∀ h ∈ all, ∃ g ∈ hs ++ [(key, value)], h = (Headers.lower g.1, g.2) := by
  obtain ⟨earlier, done, origin⟩ := collect_ok [] valid
  refine ⟨earlier.put (Headers.lower key) value, ?_, Headers.filter_put _ _ _, ?_⟩
  · simp [collect_append, done, Except.bind, collect, goodKey, goodValue]
  · intro h member
    rcases Headers.mem_put member with old | rfl
    · obtain ⟨g, inside, same⟩ := (origin h old).resolve_left (List.not_mem_nil)
      exact ⟨g, List.mem_append_left _ inside, same⟩
    · exact ⟨(key, value), by simp, rfl⟩

/-- On the wire the headers of a name that the protocol does not keep for itself are those that were
collected. -/
theorem onWire_filter {name : String} (free : name ∉ reserved) (collected : Headers) :
    (onWire collected).filter (·.1 == name) = collected.filter (·.1 == name) := by
  have own : [("te", "trailers"), ("content-type", "application/grpc")].filter (·.1 == name) =
      ([] : Headers) := by
    simp only [reserved, List.mem_cons, List.not_mem_nil, or_false, not_or] at free
    simp [Ne.symm free.1, Ne.symm free.2.1]
  rw [onWire, List.filter_append, own, List.nil_append, List.filter_filter]
  refine List.filter_congr fun h _ => ?_
  by_cases named : h.1 = name
  · simp [named, free]
  · simp [named]

/-- A body is not said to be compressed if no header of that name was collected. -/
theorem compression?_onWire {collected : Headers} (plain : ∀ h ∈ collected, h.1 ≠ encodingHeader) :
    compression? (onWire collected) = none := by
  have none : collected.filter (·.1 == encodingHeader) = [] :=
    List.filter_eq_nil_iff.mpr fun h member named => plain h member (eq_of_beq named)
  rw [compression?, Headers.first?_eq_head?, onWire_filter (by decide), none]
  rfl

/-- Headers that are in order are sent, and do not say that the body is compressed if none of them is
of that name. -/
theorem collect_plain (valid : ∀ h ∈ hs, Valid h)
    (plain : ∀ h ∈ hs, Headers.lower h.1 ≠ encodingHeader) :
    ∃ all, collect [] hs = .ok all ∧ compression? (onWire all) = none := by
  obtain ⟨all, collected, origin⟩ := collect_ok [] valid
  refine ⟨all, collected, compression?_onWire fun h member => ?_⟩
  obtain ⟨g, inside, rfl⟩ := (origin h member).resolve_left List.not_mem_nil
  exact plain g inside

/-- A name that is not one of those by which the protocol talks about calls names no compression. -/
theorem ne_encodingHeader {name : String} (foreign : ¬ "grpc-".toList <+: name.toList) :
    name ≠ encodingHeader := by
  rintro rfl
  exact foreign (by decide)

/-- The headers of a request that identifies itself by an identifier. -/
structure Identified (id : RequestId) (wire : Headers) : Prop where
  /-- There is one header of that name, and it is the identifier. -/
  once : wire.filter (·.1 == Gateway.identityHeader) = [(Gateway.identityHeader, id.text)]
  /-- The body is not said to be compressed. -/
  plain : compression? wire = none

/-- Whatever proper headers a request has besides, an identifier that is added last identifies it. -/
theorem collect_identified (proper : ∀ h ∈ hs, Proper h) (id : RequestId) :
    ∃ all, collect [] (hs ++ [(Gateway.identityHeader, id.text)]) = .ok all ∧
      Identified id (onWire all) := by
  have lower : Headers.lower Gateway.identityHeader = Gateway.identityHeader := by decide
  have own : ¬ "grpc-".toList <+: (Headers.lower Gateway.identityHeader).toList := by decide
  have foreign : ∀ g ∈ hs ++ [(Gateway.identityHeader, id.text)],
      ¬ "grpc-".toList <+: (Headers.lower g.1).toList := by
    intro g member
    rcases List.mem_append.mp member with inside | last
    · exact (proper g inside).foreign
    · obtain rfl := List.mem_singleton.mp last
      exact own
  have key : isKey Gateway.identityHeader = true := by decide
  obtain ⟨all, done, once, origin⟩ := collect_last (fun h member =>
    ⟨(proper h member).key, (proper h member).value⟩) key id.text_isValue
  rw [lower] at once
  refine ⟨all, done, ?_, ?_⟩
  · rw [onWire_filter (by decide), once]
  · refine compression?_onWire fun h member => ?_
    obtain ⟨g, inside, rfl⟩ := origin h member
    exact ne_encodingHeader (foreign g inside)

theorem Identified.first? {id : RequestId} {wire : Headers} (identified : Identified id wire) :
    wire.first? Gateway.identityHeader = some id.text := by
  rw [Headers.first?_eq_head?, identified.once]
  rfl

end Metadata
end GatewayPing
