import Charting.Proofs.RoundTrip.Dimension
import Charting.Proofs.RoundTrip.Json
import Charting.Switch

/-! # Formats that reproduce their values

A format *reproduces* its values in some depth if every value that it takes from JSON of this depth
is written in this depth and read back from there.  It need not read back every value of its type:
a number that is not finite is written as `null`, but it is never read either.

Formats that are composed of such formats are of this kind again.  For a record this needs that its
fields are independent of each other (`Record.Lawful`): an object is read by entering its members
one after the other, and since those that were written come in the order of their keys, what is read
must not depend on the order of the fields.
-/
namespace Charting

open Number

/-! ## Reading without fault -/

section Except

variable {ε ε' α β : Type}

theorem bind_eq_ok_iff {x : Except ε α} {g : α → Except ε β} {b : β} :
    (x >>= g) = .ok b ↔ ∃ a, x = .ok a ∧ g a = .ok b := by
  cases x <;> simp [bind, Except.bind]

theorem map_eq_ok_iff {x : Except ε α} {g : α → β} {b : β} :
    x.map g = .ok b ↔ ∃ a, x = .ok a ∧ g a = b := by
  cases x <;> simp [Except.map]

theorem toOption_eq_some_iff {x : Except ε α} {a : α} : x.toOption = some a ↔ x = .ok a := by
  cases x <;> simp [Except.toOption]

theorem mapError_eq_ok_iff {x : Except ε α} {g : ε → ε'} {a : α} :
    x.mapError g = .ok a ↔ x = .ok a := by
  cases x <;> simp [Except.mapError]

theorem mapM_eq_ok_iff {f : α → Except ε β} {as : List α} {bs : List β} :
    as.mapM f = .ok bs ↔ List.Forall₂ (fun a b => f a = .ok b) as bs := by
  induction as generalizing bs with
  | nil => cases bs <;> simp [pure, Except.pure]
  | cons a as ih =>
    simp only [List.mapM_cons, bind_eq_ok_iff, ih, List.forall₂_cons_left_iff]
    constructor
    · rintro ⟨b, hb, bs', hbs, h⟩
      cases h
      exact ⟨b, bs', hb, hbs, rfl⟩
    · rintro ⟨b, bs', hb, hbs, rfl⟩
      exact ⟨b, hb, bs', hbs, rfl⟩

end Except

namespace Format

variable {α : Type} {depth : Nat}

/-- A value that is read from JSON of some depth. -/
def Takes (f : Format α) (depth : Nat) (a : α) : Prop := ∃ j, j.IsRead depth ∧ f.decode j = .ok a

theorem Takes.mono {f : Format α} {a : α} {m n : Nat} (h : f.Takes m a) (hmn : m ≤ n) :
    f.Takes n a := by
  obtain ⟨j, hj, hdecode⟩ := h
  exact ⟨j, hj.mono hmn, hdecode⟩

/-- What is taken from some depth is written in this depth, and it is read back. -/
structure Reproduces (f : Format α) (depth : Nat) : Prop where
  nesting {a : α} (taken : f.Takes depth a) : (f.encode a).nesting ≤ depth
  roundTrips {a : α} (taken : f.Takes depth a) : f.RoundTrips a

/-- A value that is written in some depth and read back. -/
structure Restores (f : Format α) (depth : Nat) (a : α) : Prop where
  nesting : (f.encode a).nesting ≤ depth
  roundTrips : f.RoundTrips a

theorem Reproduces.restores {f : Format α} (hf : f.Reproduces depth) {a : α}
    (taken : f.Takes depth a) : f.Restores depth a :=
  ⟨hf.nesting taken, hf.roundTrips taken⟩

/-- No value that is read is written as `null`. -/
def NeverNull (f : Format α) : Prop := ∀ {depth a}, f.Takes depth a → f.encode a ≠ .null

/-! ## Plain values -/

theorem bool_takes (b : Bool) : bool.Takes depth b := ⟨.bool b, Json.isRead_bool b, rfl⟩

theorem text_takes (s : String) : text.Takes depth s := ⟨.string s, Json.isRead_string s, rfl⟩

theorem scheme_takes (s : Scheme) : scheme.Takes depth s := by
  refine ⟨.string s.name, Json.isRead_string _, ?_⟩
  simp only [scheme, Scheme.ofName?_name]

theorem bool_reproduces : bool.Reproduces depth := ⟨fun _ => Nat.zero_le _, fun _ => rfl⟩

theorem text_reproduces : text.Reproduces depth := ⟨fun _ => Nat.zero_le _, fun _ => rfl⟩

theorem scheme_reproduces : scheme.Reproduces depth where
  nesting _ := Nat.zero_le _
  roundTrips {s} _ := by
    change scheme.decode (.string s.name) = .ok s
    simp only [scheme, Scheme.ofName?_name]

theorem bool_neverNull : bool.NeverNull := fun _ => nofun

theorem text_neverNull : text.NeverNull := fun _ => nofun

/-! ## Numbers -/

/-- Exactly the finite numbers are read. -/
theorem real_takes_iff {x : Binary64} : real.Takes depth x ↔ x.isFinite = true := by
  constructor
  · rintro ⟨j, -, h⟩
    cases j with
    | number n => cases h; exact n.isFinite_toBinary64
    | null | bool | string | array | object => cases h
  · intro h
    exact ⟨.number (.real x h), Json.isRead_number _, rfl⟩

theorem real_takes_literal (n : Nat) (h : n < 18446744073709551616) :
    real.Takes depth (no_index (OfNat.ofNat n)) :=
  real_takes_iff.mpr (Binary64.isFinite_literal n h)

theorem ofBinary64_of_isFinite {x : Binary64} (h : x.isFinite = true) :
    Json.ofBinary64 x = .number (.real x h) := dif_pos h

theorem nesting_ofBinary64 (x : Binary64) : (Json.ofBinary64 x).nesting = 0 := by
  unfold Json.ofBinary64
  split <;> rfl

theorem real_reproduces : real.Reproduces depth where
  nesting {x} _ := (nesting_ofBinary64 x).trans_le (Nat.zero_le _)
  roundTrips {x} taken := by
    change real.decode (Json.ofBinary64 x).sortMembers = .ok x
    rw [ofBinary64_of_isFinite (real_takes_iff.mp taken)]
    rfl

theorem real_neverNull : real.NeverNull := by
  intro depth x taken
  change Json.ofBinary64 x ≠ .null
  rw [ofBinary64_of_isFinite (real_takes_iff.mp taken)]
  exact nofun

theorem count_encode (n : UInt32) : ∃ fits, count.encode n = .number (.integer n.toNat fits) := by
  have hlt := n.toNat_lt
  have hword : FitsWord n.toNat := ⟨by omega, by omega⟩
  refine ⟨hword, ?_⟩
  simp only [count, Json.ofNat, dif_pos hword]

theorem count_decode_number {m : JsonNumber} {n : UInt32}
    (h : m.toNat? UInt32.size = some n.toNat) : count.decode (.number m) = .ok n := by
  simp only [count, h, UInt32.ofNat_toNat]

theorem toNat?_integer {n bound : Nat} (fits : FitsWord n) (h : n < bound) :
    (JsonNumber.integer n fits).toNat? bound = some n := by
  rw [JsonNumber.toNat?, if_pos ⟨Int.natCast_nonneg _, by exact_mod_cast h⟩, Int.toNat_natCast]

theorem count_decode_integer (n : UInt32) (fits : FitsWord n.toNat) :
    count.decode (.number (.integer n.toNat fits)) = .ok n :=
  count_decode_number (toNat?_integer fits n.toNat_lt)

theorem count_takes (n : UInt32) : count.Takes depth n := by
  obtain ⟨fits, -⟩ := count_encode n
  exact ⟨_, Json.isRead_number _, count_decode_integer n fits⟩

theorem count_reproduces : count.Reproduces depth where
  nesting {n} _ := by
    obtain ⟨fits, hencode⟩ := count_encode n
    rw [hencode]
    exact (Json.isRead_number _).nesting
  roundTrips {n} _ := by
    obtain ⟨fits, hencode⟩ := count_encode n
    rw [RoundTrips, hencode, Json.sortMembers_number]
    exact count_decode_integer n fits

/-! ## Named values -/

section Named

variable {all : List α} {name : α → String}

theorem mem_of_named_decode {j : Json} {a : α} (h : (named all name).decode j = .ok a) :
    a ∈ all := by
  unfold named at h
  dsimp only at h
  split at h
  · split at h
    · cases h
      exact List.mem_of_find?_eq_some ‹_›
    · cases h
  · split at h
    · cases h
      exact List.mem_of_find?_eq_some ‹_›
    · cases h
  · cases h

theorem named_decode_name (hnames : (all.map name).Nodup) {a : α} (ha : a ∈ all) :
    (named all name).decode (.string (name a)) = .ok a := by
  have hfound : all.find? (fun b => name b == name a) = some a :=
    (find?_key_eq_some_iff hnames).mpr ⟨ha, rfl⟩
  simp only [named, hfound]

theorem named_takes (hnames : (all.map name).Nodup) {a : α} (ha : a ∈ all) :
    (named all name).Takes depth a :=
  ⟨.string (name a), Json.isRead_string _, named_decode_name hnames ha⟩

theorem named_reproduces (hnames : (all.map name).Nodup) : (named all name).Reproduces depth where
  nesting _ := Nat.zero_le _
  roundTrips := by
    rintro a ⟨j, -, hdecode⟩
    exact named_decode_name hnames (mem_of_named_decode hdecode)

theorem named_neverNull : (named all name).NeverNull := fun _ => nofun

end Named

/-! ## Optional values -/

section Optional

variable {f : Format α}

theorem optional_takes_none : f.optional.Takes depth none :=
  ⟨.null, Json.isRead_null, rfl⟩

theorem optional_decode {j : Json} (h : j ≠ .null) :
    f.optional.decode j = (f.decode j).map some := by
  cases j with
  | null => exact absurd rfl h
  | bool | number | string | array | object => rfl

theorem takes_of_optional_takes {a : α} (h : f.optional.Takes depth (some a)) :
    f.Takes depth a := by
  obtain ⟨j, hj, hdecode⟩ := h
  have hne : j ≠ .null := by
    rintro rfl
    cases hdecode
  rw [optional_decode hne, map_eq_ok_iff] at hdecode
  obtain ⟨b, hb, hsome⟩ := hdecode
  cases hsome
  exact ⟨j, hj, hb⟩

/-- A value that is given must not be written like one that is missing. -/
theorem optional_reproduces (hf : f.Reproduces depth) (hnull : f.NeverNull) :
    f.optional.Reproduces depth where
  nesting {a?} taken := by
    cases a? with
    | none => exact Nat.zero_le _
    | some a => exact hf.nesting (takes_of_optional_takes taken)
  roundTrips {a?} taken := by
    cases a? with
    | none => rfl
    | some a =>
      have hgiven := takes_of_optional_takes taken
      have hne : (f.encode a).sortMembers ≠ .null :=
        mt Json.sortMembers_eq_null_iff.mp (hnull hgiven)
      change f.optional.decode (f.encode a).sortMembers = .ok (some a)
      rw [optional_decode hne, hf.roundTrips hgiven]
      rfl

end Optional

theorem optional_bool_reproduces : bool.optional.Reproduces depth :=
  optional_reproduces bool_reproduces bool_neverNull

theorem optional_text_reproduces : text.optional.Reproduces depth :=
  optional_reproduces text_reproduces text_neverNull

theorem optional_named_reproduces {all : List α} {name : α → String}
    (hnames : (all.map name).Nodup) : (named all name).optional.Reproduces depth :=
  optional_reproduces (named_reproduces hnames) named_neverNull

theorem optional_real_reproduces : real.optional.Reproduces depth :=
  optional_reproduces real_reproduces real_neverNull

/-! ## Lists -/

section List

variable {f : Format α}

theorem list_takes_nil : f.list.Takes (depth + 1) [] :=
  ⟨.array [], Json.isRead_array_iff.mpr nofun, rfl⟩

theorem takes_of_list_takes {as : List α} (h : f.list.Takes (depth + 1) as) :
    ∀ a ∈ as, f.Takes depth a := by
  obtain ⟨j, hj, hdecode⟩ := h
  cases j with
  | array items =>
    have hitems := mapM_eq_ok_iff.mp hdecode
    have hread := Json.isRead_array_iff.mp hj
    clear hj hdecode
    induction hitems with
    | nil => nofun
    | cons hvalue _ ih =>
      rw [List.forall_mem_cons] at hread ⊢
      exact ⟨⟨_, hread.1, hvalue⟩, ih hread.2⟩
  | null | bool | number | string | object => cases hdecode

theorem list_restores {as : List α} (h : ∀ a ∈ as, f.Restores depth a) :
    f.list.Restores (depth + 1) as where
  nesting := by
    refine Json.nesting_array_le_iff.mpr fun j hj => ?_
    obtain ⟨a, ha, rfl⟩ := List.mem_map.mp hj
    exact (h a ha).nesting
  roundTrips := by
    change (Json.sortItems (as.map f.encode)).mapM f.decode = .ok as
    rw [Json.sortItems_eq_map, mapM_eq_ok_iff, List.map_map, List.forall₂_map_left_iff,
      List.forall₂_same]
    exact fun a ha => (h a ha).roundTrips

theorem list_reproduces (hf : f.Reproduces depth) : f.list.Reproduces (depth + 1) := by
  have hrestores : ∀ {as}, f.list.Takes (depth + 1) as → f.list.Restores (depth + 1) as :=
    fun taken => list_restores fun a ha => hf.restores (takes_of_list_takes taken a ha)
  exact ⟨fun taken => (hrestores taken).nesting, fun taken => (hrestores taken).roundTrips⟩

theorem list_neverNull : f.list.NeverNull := fun _ => nofun

end List

/-! ## Values of several shapes -/

theorem hidingFaults_decode_eq_ok_iff {f : Format α} {j : Json} {a : α} :
    f.hidingFaults.decode j = .ok a ↔ f.decode j = .ok a := mapError_eq_ok_iff

theorem list_text_takes (texts : List String) : text.list.Takes (depth + 1) texts := by
  refine ⟨.array (texts.map .string), Json.isRead_array_iff.mpr fun j hj => ?_, ?_⟩
  · obtain ⟨s, -, rfl⟩ := List.mem_map.mp hj
    exact Json.isRead_string s
  · change (texts.map Json.string).mapM text.decode = .ok texts
    rw [mapM_eq_ok_iff, List.forall₂_map_left_iff, List.forall₂_same]
    exact fun _ _ => rfl

theorem coloring_takes (c : Coloring) : coloring.Takes (depth + 1) c := by
  cases c with
  | single color => exact ⟨.string color, Json.isRead_string color, rfl⟩
  | each colors =>
    have htaken : text.list.Takes (depth + 1) colors := list_text_takes colors
    obtain ⟨j, hj, hdecode⟩ := htaken
    cases j with
    | array items =>
      refine ⟨.array items, hj, ?_⟩
      change (text.list.hidingFaults.decode (.array items)).map Coloring.each = _
      rw [map_eq_ok_iff]
      exact ⟨colors, hidingFaults_decode_eq_ok_iff.mpr hdecode, rfl⟩
    | null | bool | number | string | object => cases hdecode

theorem coloring_reproduces : coloring.Reproduces (depth + 1) where
  nesting {c} _ := by
    cases c with
    | single color => exact (Json.isRead_string color).nesting
    | each colors => exact (list_reproduces text_reproduces).nesting (list_text_takes colors)
  roundTrips {c} _ := by
    cases c with
    | single color => rfl
    | each colors =>
      have hreproduces : text.list.Reproduces (depth + 1) := list_reproduces text_reproduces
      have hcolors := hreproduces.roundTrips (list_text_takes colors)
      change (text.list.hidingFaults.decode _).map Coloring.each = .ok (.each colors)
      rw [map_eq_ok_iff]
      exact ⟨colors, hidingFaults_decode_eq_ok_iff.mpr hcolors, rfl⟩

theorem coloring_neverNull : coloring.NeverNull := by
  intro depth c _
  cases c <;> nofun

theorem dimension_decode_number (n : JsonNumber) :
    dimension.decode (.number n) = .ok (.px n.toBinary64) := by
  rw [dimension]

theorem dimension_decode_string (s : String) :
    dimension.decode (.string s) = (Dimension.parse s).mapError .dimension := by
  rw [dimension]

theorem dimension_encode_px {length : Binary64} (h : length.isFinite = true) :
    dimension.encode (.px length) = .number (.real length h) := by
  rw [dimension, ← ofBinary64_of_isFinite]

theorem dimension_encode_percent (share : Binary64) :
    dimension.encode (.percent share) = .string (Dimension.percent share).css := by
  rw [dimension]

/-- Lengths in pixels are read from any number, shares only from a CSS length. -/
theorem isReadable_of_takes {d : Dimension} (h : dimension.Takes depth d) : d.IsReadable := by
  obtain ⟨j, -, hdecode⟩ := h
  cases j with
  | number n =>
    rw [dimension_decode_number, Except.ok.injEq] at hdecode
    subst hdecode
    exact Dimension.isReadable_px n.isFinite_toBinary64
  | string s =>
    rw [dimension_decode_string] at hdecode
    exact Dimension.isReadable_of_parse (mapError_eq_ok_iff.mp hdecode)
  | null | bool | array | object => cases hdecode

theorem dimension_reproduces : dimension.Reproduces depth where
  nesting {d} taken := by
    cases d with
    | px length =>
      have hfinite : length.isFinite = true := (isReadable_of_takes taken).finite
      rw [dimension_encode_px hfinite]
      exact (Json.isRead_number _).nesting
    | percent share =>
      rw [dimension_encode_percent]
      exact (Json.isRead_string _).nesting
  roundTrips {d} taken := by
    obtain ⟨hfinite, hnonneg⟩ := isReadable_of_takes taken
    cases d with
    | px length =>
      rw [Dimension.number] at hfinite
      rw [RoundTrips, dimension_encode_px hfinite, Json.sortMembers_number,
        dimension_decode_number, JsonNumber.toBinary64]
    | percent share =>
      rw [RoundTrips, dimension_encode_percent, Json.sortMembers_string, dimension_decode_string,
        mapError_eq_ok_iff]
      exact Dimension.parse_css_of_nonneg hfinite (hnonneg share rfl)

theorem dimension_neverNull : dimension.NeverNull := by
  intro depth d taken
  cases d with
  | px length =>
    have hfinite : length.isFinite = true := (isReadable_of_takes taken).finite
    rw [dimension_encode_px hfinite]
    exact nofun
  | percent share =>
    rw [dimension_encode_percent]
    exact nofun

theorem optional_dimension_reproduces : dimension.optional.Reproduces depth :=
  optional_reproduces dimension_reproduces dimension_neverNull

end Format

/-! ## Switches -/

namespace Switch

variable {α : Type} {f : Format α} {depth : Nat}

theorem format_takes_on : (format f).Takes depth .on := ⟨.bool true, Json.isRead_bool true, rfl⟩

theorem format_decode {j : Json} (h : ∀ b, j ≠ .bool b) :
    (format f).decode j = (f.hidingFaults.decode j).map custom := by
  cases j with
  | bool b => exact absurd rfl (h b)
  | null | number | string | array | object => rfl

theorem takes_of_format_takes {a : α} (h : (format f).Takes depth (.custom a)) :
    f.Takes depth a := by
  obtain ⟨j, hj, hvalue⟩ := h
  have hne : ∀ b, j ≠ .bool b := by
    rintro b rfl
    cases b <;> cases hvalue
  rw [format_decode hne, map_eq_ok_iff] at hvalue
  obtain ⟨b, hb, heq⟩ := hvalue
  cases heq
  exact ⟨j, hj, Format.hidingFaults_decode_eq_ok_iff.mp hb⟩

/-- Settings must not be written like a switch without settings. -/
theorem format_reproduces (hf : f.Reproduces depth)
    (hbool : ∀ a b, (f.encode a).sortMembers ≠ .bool b) : (format f).Reproduces depth where
  nesting {s} taken := by
    cases s with
    | off | on => exact (Json.isRead_bool _).nesting
    | custom a => exact hf.nesting (takes_of_format_takes taken)
  roundTrips {s} taken := by
    cases s with
    | off | on => rfl
    | custom a =>
      have hback := hf.roundTrips (takes_of_format_takes taken)
      change (format f).decode (f.encode a).sortMembers = .ok (.custom a)
      rw [format_decode (hbool a), map_eq_ok_iff]
      exact ⟨a, Format.hidingFaults_decode_eq_ok_iff.mpr hback, rfl⟩

end Switch
end Charting
