import Charting.Compile
import Charting.Proofs.PassThrough
import Charting.Proofs.RoundTrip.Nesting
import Charting.Proofs.RoundTrip.Props

/-! # Reading options back

The option of properties that were read is nested so little that its text can be read, also inside
an envelope: its own parts take few levels, and its extensions had to fit below the two levels of
the properties in which they stood, which is where they stand in the envelope
(`Compiled.nesting_toJson_le`).

So an envelope gives its option back, whatever extensions there are (`Envelope.read_pretty`).  An
option without an envelope is told from one by a single key, which an extension may have; then the
extension is read as the version (`Envelope.read_bare`).
-/
namespace Charting

open Json (member)

/-! ## Nesting -/

theorem Props.IsRead.isRead_extensions {p : Props} (h : p.IsRead) :
    ∀ m ∈ p.extensions.entries, m.2.IsRead 125 := by
  have hfields : Props.record.Taken 126 p :=
    Props.record_lawful.taken_of_format_takes Props.taken_start h.taken
  -- The extensions are the last field.
  have hextensions : Extensions.format.Takes 126 p.extensions :=
    hfields (Props.record.fields.getLast nofun) (List.getLast_mem _)
  exact (Json.isRead_object_iff.mp (Extensions.isRead_of_takes hextensions)).2

theorem Compiled.nesting_toJson_le {p : Props} {family : Family} {data : Option Data}
    {o : ChartOption} (h : Compiled p family data o) (hread : p.IsRead) :
    o.toJson.nesting ≤ 126 := by
  refine ChartOption.nesting_toJson_le (n := 117) ?_
  rw [h.extensions_eq]
  exact fun m hm => (hread.isRead_extensions m hm).nesting

namespace Envelope

variable {o : ChartOption}

/-! ## With an envelope -/

theorem isVersion_ofNat_version : isVersion (Json.ofNat version).sortMembers = true := by
  decide +kernel

theorem unwrap_toJson (o : ChartOption) : unwrap (toJson o).sortMembers = .ok o.value := by
  have hget (key : String) : (toJson o).sortMembers.get? key =
      (Json.lookup key [("schemaVersion", .ofNat version), ("option", o.toJson)]).map
        Json.sortMembers :=
    Json.get?_sortMembers (by simp [member])
  have hversion : (toJson o).sortMembers.get? "schemaVersion" =
      some (Json.ofNat version).sortMembers := hget _
  have hoption : (toJson o).sortMembers.get? "option" = some o.value := hget _
  simp only [unwrap, hversion, isVersion_ofNat_version, hoption, if_true]

/-- **An option is read back from its envelope**, unless it is nested too deeply. -/
theorem read_pretty (h : o.toJson.nesting ≤ 126) : read (pretty o) = .ok o.value := by
  have hnesting : (toJson o).nesting ≤ Json.depthLimit := by
    refine Json.nesting_ofMembers_le_iff.mpr ?_
    simp [h]
  rw [read, pretty, Json.parse_pretty hnesting]
  exact unwrap_toJson o

/-! ## Without an envelope -/

/-- What a reader makes of an option without an envelope, with its extensions. -/
def bareOutcome (o : ChartOption) : Except Fault Json :=
  match o.extensions.get? "schemaVersion" with
  | none => .ok o.value
  | some found =>
    if isVersion found then
      match o.extensions.get? "option" with
      | some j => .ok j.sortMembers
      | none => .error .noOption
    else .error (.unknownVersion found.sortMembers)

theorem isVersion_sortMembers (j : Json) : isVersion j.sortMembers = isVersion j := by
  cases j <;> rfl

/-- The keys of envelopes are free for extensions. -/
theorem get?_value_envelope (h : o.HasOwnKeys) {key : String} (hkey : key ∉ ChartOption.keys) :
    o.value.get? key = (o.extensions.get? key).map Json.sortMembers := by
  have hnone : Json.lookup key o.own = none :=
    Json.lookup_eq_none_iff.mpr fun hmem => hkey (o.members_aligned.sublist.subset hmem)
  rw [ChartOption.get?_value h, hnone, Option.or_none]

/-- **An option without an envelope is taken for one if an extension names a version.** -/
theorem read_bare (hkeys : o.HasOwnKeys) (h : o.toJson.nesting ≤ Json.depthLimit) :
    read o.pretty = bareOutcome o := by
  have hversion : o.value.get? "schemaVersion" = _ := get?_value_envelope hkeys (by decide)
  have hoption : o.value.get? "option" = _ := get?_value_envelope hkeys (by decide)
  rw [read, ChartOption.pretty, Json.parse_pretty h]
  change unwrap o.value = _
  rw [unwrap, hversion, hoption, bareOutcome]
  cases o.extensions.get? "schemaVersion" with
  | none => rfl
  | some found =>
    simp only [Option.map_some, isVersion_sortMembers]
    cases o.extensions.get? "option" <;> rfl

/-- An extension is not the whole option. -/
theorem ne_value_of_get? (hkeys : o.HasOwnKeys) {key : String} (hkey : key ∉ ChartOption.keys)
    {j : Json} (h : o.extensions.get? key = some j) : j.sortMembers ≠ o.value := by
  intro heq
  have hget := get?_value_envelope hkeys hkey
  rw [h, Option.map_some, heq] at hget
  exact lt_irrefl _ (Json.nesting_lt_of_get? hget)

/-- **An option without an envelope is read back exactly if no extension names a version.** -/
theorem bareOutcome_eq_ok_iff (hkeys : o.HasOwnKeys) :
    bareOutcome o = .ok o.value ↔ "schemaVersion" ∉ o.extensions.entries.map (·.1) := by
  rw [← Extensions.get?_eq_none_iff, bareOutcome]
  cases o.extensions.get? "schemaVersion" with
  | none => simp
  | some found =>
    simp only [reduceCtorEq, iff_false]
    split
    · cases hoption : o.extensions.get? "option" with
      | none => simp
      | some j => simpa using ne_value_of_get? hkeys (by decide) hoption
    · simp

end Envelope

/-! ## Options of properties that were read -/

variable {text : String} {p : Props} {family : Family} {data : Option Data} {o : ChartOption}

/-- **An envelope loses nothing**, whatever the extensions of the option are, and whatever samples
and labels the data have. -/
theorem read_envelope_of_compile (hread : Props.parse text = .ok p)
    (hcompile : compile family data p = .ok (some o)) :
    Envelope.read (Envelope.pretty o) = .ok o.value := by
  obtain ⟨-, ho⟩ := compile_eq_some_iff.mp hcompile
  exact Envelope.read_pretty (ho.nesting_toJson_le (Props.isRead_of_parse hread))

/-- Properties with extensions that are keyed like the members of an envelope. -/
def versionedText : String :=
  "\x7b\"extraOptions\": \x7b\"schemaVersion\": 2, \"option\": []\x7d\x7d"

/-- These extensions are allowed, since they are no parts of an option. -/
theorem exists_parse_versionedText : ∃ p, Props.parse versionedText = .ok p ∧
    p.extensions.entries.map (·.1) = ["option", "schemaVersion"] := by
  have hkeys : (Props.parse versionedText).toOption.map (·.extensions.entries.map (·.1)) =
      some ["option", "schemaVersion"] := by decide +kernel
  obtain ⟨p, hread, hp⟩ := Option.map_eq_some_iff.mp hkeys
  exact ⟨p, toOption_eq_some_iff.mp hread, hp⟩

theorem read_envelope_of_compile_versionedText :
    let d : Data := ⟨["\"\n", "\u00e9"], [{ label := "\\", data := [.nan, .infinite true, -0] }]⟩
    ∃ p o, Props.parse versionedText = .ok p ∧ compile .bar (some d) p = .ok (some o) ∧
      Envelope.read (Envelope.pretty o) = .ok o.value := by
  intro d
  obtain ⟨p, hread, -⟩ := exists_parse_versionedText
  have hcompile := compile_eq_some_iff.mpr ⟨(Props.isRead_of_parse hread).valid,
    (.cartesian rfl rfl : Compiled _ .bar (some d) _)⟩
  exact ⟨p, _, hread, hcompile, read_envelope_of_compile hread hcompile⟩

/-- **An option that is sent without an envelope is read back as it is exactly if the host has no
extension that is keyed like the version of an envelope.**  The checks of properties leave this key
to the host, since no part of an option has it. -/
theorem read_bare_of_compile (hread : Props.parse text = .ok p)
    (hcompile : compile family data p = .ok (some o)) :
    Envelope.read o.pretty = .ok o.value ↔
      "schemaVersion" ∉ p.extensions.entries.map (·.1) := by
  obtain ⟨hvalid, ho⟩ := compile_eq_some_iff.mp hcompile
  have hkeys := ho.hasOwnKeys (Props.validate_eq_ok_iff.mp hvalid)
  have hnesting := (ho.nesting_toJson_le (Props.isRead_of_parse hread)).trans (Nat.le_succ 126)
  rw [Envelope.read_bare hkeys hnesting, Envelope.bareOutcome_eq_ok_iff hkeys, ho.extensions_eq]

theorem read_bare_of_compile_versionedText :
    ∃ p o, Props.parse versionedText = .ok p ∧ compile .gauge none p = .ok (some o) ∧
      (Envelope.read o.pretty = .ok o.value ↔
        "schemaVersion" ∉ p.extensions.entries.map (·.1)) := by
  obtain ⟨p, hread, -⟩ := exists_parse_versionedText
  have hcompile := compile_eq_some_iff.mpr ⟨(Props.isRead_of_parse hread).valid,
    (.gauge : Compiled _ .gauge none _)⟩
  exact ⟨p, _, hread, hcompile, read_bare_of_compile hread hcompile⟩

/-- The option of such properties is not read back without an envelope. -/
theorem read_bare_ne_value :
    ∃ p o, Props.parse versionedText = .ok p ∧ compile .gauge none p = .ok (some o) ∧
      Envelope.read o.pretty ≠ .ok o.value := by
  obtain ⟨p, hread, hextensions⟩ := exists_parse_versionedText
  have hvalid := (Props.isRead_of_parse hread).valid
  have ho : Compiled p .gauge none (Compile.gauge p p.context) := .gauge
  have hkeys := ho.hasOwnKeys (Props.validate_eq_ok_iff.mp hvalid)
  have hnesting := (ho.nesting_toJson_le (Props.isRead_of_parse hread)).trans (Nat.le_succ 126)
  refine ⟨p, _, hread, compile_eq_some_iff.mpr ⟨hvalid, ho⟩, ?_⟩
  rw [Envelope.read_bare hkeys hnesting, ne_eq, Envelope.bareOutcome_eq_ok_iff hkeys,
    ho.extensions_eq, hextensions]
  decide

end Charting
