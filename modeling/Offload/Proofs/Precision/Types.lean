/-
# The element types of a model

What promotion does to the types of a model's parameters, apart from any model. The parameters
are listed by path; those of one layer are cast together. The promoted layers are the ones with a
parameter of reduced precision, and the record of a promotion keeps one type for each of them: the
first such type of the layer. Casting back therefore settles a layer on that type, and the types
are what they were exactly if every layer with reduced precision had only one.
-/

import Offload.Proofs.Dict
import Offload.Layer

namespace Offload

/-- The paths and element types of some parameters. -/
abbrev ParameterTypes := List (String × DType)

/-- The types of parameters. -/
def ParameterTypes.of (parameters : List NamedParameter) : ParameterTypes :=
  parameters.map fun parameter => (parameter.1, parameter.2.dtype)

namespace ParameterTypes

/-- The types that stand in a layer, in order. -/
def within (types : ParameterTypes) (layer : String) : List DType :=
  (types.filter fun entry => LayerInfo.nameOfPath entry.1 == layer).map Prod.snd

@[simp]
theorem within_nil (layer : String) : within [] layer = [] := rfl

theorem within_cons (entry : String × DType) (rest : ParameterTypes) (layer : String) :
    within (entry :: rest) layer =
      if LayerInfo.nameOfPath entry.1 = layer then entry.2 :: within rest layer
      else within rest layer := by
  by_cases here : LayerInfo.nameOfPath entry.1 = layer <;> simp [within, here]

theorem mem_within_iff (types : ParameterTypes) (layer : String) (dtype : DType) :
    dtype ∈ types.within layer ↔
      ∃ entry ∈ types, LayerInfo.nameOfPath entry.1 = layer ∧ entry.2 = dtype := by
  simp [within]

/-- The reduced-precision type of a layer. -/
def half? (types : ParameterTypes) (layer : String) : Option DType :=
  (types.within layer).find? DType.isHalf

/-- Add the type of a path to its layer. -/
def addTo (layers : Dict (List DType)) (entry : String × DType) : Dict (List DType) :=
  let name := LayerInfo.nameOfPath entry.1
  layers.insert name ((layers.get? name).getD [] ++ [entry.2])

/-- The layers by name. -/
def layers (types : ParameterTypes) : List LayerInfo :=
  (types.foldl addTo Dict.empty).entries.map fun (name, dtypes) => ⟨name, dtypes⟩

/-- Grouping parameters looks at their types only. -/
theorem ofParameters_eq (parameters : List NamedParameter) :
    LayerInfo.ofParameters parameters = (of parameters).layers := by
  rw [LayerInfo.ofParameters, layers, of, List.foldl_map]
  rfl

/-- What the grouping has for a layer, once the types of some paths were added. -/
private theorem get?_foldl_addTo (types : ParameterTypes) (layer : String) :
    (types.foldl addTo Dict.empty).get? layer =
      if types.within layer = [] then none else some (types.within layer) := by
  have grows (types : ParameterTypes) (dict : Dict (List DType)) :
      (types.foldl addTo dict).get? layer =
        if types.within layer = [] then dict.get? layer
        else some ((dict.get? layer).getD [] ++ types.within layer) := by
    induction types generalizing dict with
    | nil => simp
    | cons entry rest ih =>
        rw [List.foldl_cons, ih, addTo, Dict.get?_insert, within_cons]
        by_cases here : LayerInfo.nameOfPath entry.1 = layer
        · by_cases last : within rest layer = [] <;> simp [here, last]
        · rw [if_neg (Ne.symm here), if_neg here]
  simpa using grows types Dict.empty

/-- The layers are those that types stand in, each with its own. -/
theorem mem_layers_iff (types : ParameterTypes) (info : LayerInfo) :
    info ∈ types.layers ↔ info.dtypes = types.within info.name ∧ info.dtypes ≠ [] := by
  obtain ⟨name, dtypes⟩ := info
  have listed : (⟨name, dtypes⟩ : LayerInfo) ∈ types.layers ↔
      (name, dtypes) ∈ (types.foldl addTo Dict.empty).entries := by
    simp [layers]
  rw [listed, Dict.mem_entries_iff, get?_foldl_addTo]
  split
  · next none => simp [none]
  · next some =>
      rw [Option.some.injEq]
      exact ⟨fun same => ⟨same.symm, same ▸ some⟩, fun same => same.1.symm⟩

/-- No two layers have one name. -/
theorem layers_pairwise (types : ParameterTypes) :
    types.layers.Pairwise fun info other => info.name ≠ other.name := by
  rw [layers, List.pairwise_map]
  apply (types.foldl addTo Dict.empty).sorted.imp
  rintro ⟨name, dtypes⟩ ⟨name', dtypes'⟩ before rfl
  exact String.lt_irrefl _ before

theorem half?_of_mem_layers {types : ParameterTypes} {info : LayerInfo}
    (listed : info ∈ types.layers) :
    info.half? = types.half? info.name := by
  rw [LayerInfo.half?, ((mem_layers_iff types info).mp listed).1, half?]

/-- Cast some layers to a type. -/
def cast (layers : List String) (dtype : DType) (types : ParameterTypes) : ParameterTypes :=
  types.map fun entry =>
    (entry.1, if LayerInfo.nameOfPath entry.1 ∈ layers then dtype else entry.2)

@[simp]
theorem cast_nil (dtype : DType) (types : ParameterTypes) : cast [] dtype types = types := by
  simp [cast]

/-- Casting one more layer. -/
theorem cast_append_singleton (layers : List String) (layer : String) (dtype : DType)
    (types : ParameterTypes) :
    cast (layers ++ [layer]) dtype types = cast [layer] dtype (cast layers dtype types) := by
  rw [cast, cast, cast, List.map_map]
  apply List.map_congr_left
  intro entry _
  by_cases last : LayerInfo.nameOfPath entry.1 = layer <;> simp [last]

/-- The layer of each type. -/
def names (types : ParameterTypes) : List String :=
  types.map fun entry => LayerInfo.nameOfPath entry.1

@[simp]
theorem names_cast (layers : List String) (dtype : DType) (types : ParameterTypes) :
    (cast layers dtype types).names = types.names := by
  simp [names, cast]

/-- A layer of reduced precision has types. -/
theorem mem_names_of_half {types : ParameterTypes} {layer : String}
    (half : (types.half? layer).isSome) : layer ∈ types.names := by
  obtain ⟨dtype, half⟩ := Option.isSome_iff_exists.mp half
  obtain ⟨entry, there, here, -⟩ :=
    (mem_within_iff types layer dtype).mp (List.mem_of_find?_eq_some half)
  exact List.mem_map.mpr ⟨entry, there, here⟩

/-- The type of reduced precision is one. -/
theorem isHalf_of_half {types : ParameterTypes} {layer : String} {dtype : DType}
    (half : types.half? layer = some dtype) : dtype.isHalf = true :=
  List.find?_some half

/-- Cast recorded layers to their own types, one after the other. -/
def restore (record : List (String × DType)) (types : ParameterTypes) : ParameterTypes :=
  record.foldl (fun types entry => cast [entry.1] entry.2 types) types

/-- Casting one more layer back. -/
theorem restore_append_singleton (record : List (String × DType)) (entry : String × DType)
    (types : ParameterTypes) :
    restore (record ++ [entry]) types = cast [entry.1] entry.2 (restore record types) := by
  rw [restore, List.foldl_append]
  rfl

@[simp]
theorem names_restore (record : List (String × DType)) (types : ParameterTypes) :
    (restore record types).names = types.names := by
  induction record generalizing types with
  | nil => rfl
  | cons first later ih => exact (ih _).trans (names_cast _ _ _)

/-- What a promotion keeps of some layers. -/
def record (infos : List LayerInfo) : List (String × DType) :=
  infos.filterMap fun info => info.half?.map fun dtype => (info.name, dtype)

/-- The names of the layers that are promoted. -/
def promoted (infos : List LayerInfo) : List String := (record infos).map Prod.fst

/-- Every layer with reduced precision settles on the first such type it has. -/
def settle (types : ParameterTypes) : ParameterTypes :=
  types.map fun entry => (entry.1, (types.half? (LayerInfo.nameOfPath entry.1)).getD entry.2)

theorem record_cons (info : LayerInfo) (infos : List LayerInfo) :
    record (info :: infos) =
      (info.half?.map fun dtype => (info.name, dtype)).toList ++ record infos := by
  cases half : info.half? <;> simp [record, half]

theorem record_append (infos others : List LayerInfo) :
    record (infos ++ others) = record infos ++ record others := List.filterMap_append

theorem promoted_append (infos others : List LayerInfo) :
    promoted (infos ++ others) = promoted infos ++ promoted others := by
  rw [promoted, record_append, List.map_append, promoted, promoted]

/-- Casting back gives each recorded layer its type, if no layer is recorded twice. -/
theorem restore_eq {record : List (String × DType)}
    (apart : record.Pairwise fun entry other => entry.1 ≠ other.1) (types : ParameterTypes) :
    restore record types = types.map fun entry =>
      (entry.1, (record.lookup (LayerInfo.nameOfPath entry.1)).getD entry.2) := by
  induction record generalizing types with
  | nil => simp [restore]
  | cons first later ih =>
      obtain ⟨different, others⟩ := List.pairwise_cons.mp apart
      obtain ⟨name, dtype⟩ := first
      change restore later (cast [name] dtype types) = _
      rw [ih others, cast, List.map_map]
      apply List.map_congr_left
      intro entry _
      by_cases here : LayerInfo.nameOfPath entry.1 = name
      · have once : later.lookup name = none := by
          rw [List.lookup_eq_none_iff]
          exact fun other there => by simpa using different other there
        simp [here, once]
      · have skips : (LayerInfo.nameOfPath entry.1 == name) = false := by simpa using here
        simp [List.lookup_cons, skips, here]

section Record

variable (types : ParameterTypes)

/-- No layer is recorded twice. -/
theorem record_pairwise : (record types.layers).Pairwise fun entry other => entry.1 ≠ other.1 := by
  apply (layers_pairwise types).filterMap _
  intro info other apart entry recorded entry' recorded'
  obtain ⟨dtype, -, rfl⟩ := Option.map_eq_some_iff.mp recorded
  obtain ⟨dtype', -, rfl⟩ := Option.map_eq_some_iff.mp recorded'
  exact apart

/-- A layer is recorded with its reduced-precision type. -/
theorem mem_record_iff (layer : String) (dtype : DType) :
    (layer, dtype) ∈ record types.layers ↔ types.half? layer = some dtype := by
  rw [record, List.mem_filterMap]
  constructor
  · intro member
    obtain ⟨info, listed, recorded⟩ := member
    obtain ⟨found, half, same⟩ := Option.map_eq_some_iff.mp recorded
    obtain ⟨rfl, rfl⟩ := Prod.mk.inj same
    rw [← half?_of_mem_layers listed, half]
  · intro half
    have listed : (⟨layer, types.within layer⟩ : LayerInfo) ∈ types.layers := by
      refine (mem_layers_iff types _).mpr ⟨rfl, fun none => ?_⟩
      rw [half?, show types.within layer = [] from none] at half
      exact nomatch half
    exact ⟨_, listed, by rw [half?_of_mem_layers listed, half, Option.map_some]⟩

theorem mem_promoted_iff (layer : String) :
    layer ∈ promoted types.layers ↔ (types.half? layer).isSome := by
  rw [promoted, List.mem_map, Option.isSome_iff_exists]
  constructor
  · rintro ⟨⟨name, dtype⟩, recorded, rfl⟩
    exact ⟨dtype, (mem_record_iff types name dtype).mp recorded⟩
  · intro reduced
    obtain ⟨dtype, half⟩ := reduced
    exact ⟨_, (mem_record_iff types layer dtype).mpr half, rfl⟩

/-- The record gives every layer its reduced-precision type. -/
theorem lookup_record (layer : String) :
    (record types.layers).lookup layer = types.half? layer := by
  have found {record : List (String × DType)} {dtype : DType}
      (apart : record.Pairwise fun entry other => entry.1 ≠ other.1)
      (there : (layer, dtype) ∈ record) : record.lookup layer = some dtype := by
    induction record with
    | nil => exact nomatch there
    | cons first later ih =>
        obtain ⟨different, others⟩ := List.pairwise_cons.mp apart
        obtain ⟨name, dtype'⟩ := first
        rcases List.mem_cons.mp there with here | there
        · obtain ⟨rfl, rfl⟩ := Prod.mk.inj here
          exact List.lookup_cons_self
        · have skips : (layer == name) = false := by
            simpa using Ne.symm (different _ there)
          rw [List.lookup_cons, skips]
          exact ih others there
  cases half : types.half? layer with
  | some dtype => exact found (record_pairwise types) ((mem_record_iff types layer dtype).mpr half)
  | none =>
      rw [List.lookup_eq_none_iff]
      intro entry there
      obtain ⟨name, dtype⟩ := entry
      rw [bne_iff_ne]
      rintro rfl
      rw [(mem_record_iff types layer dtype).mp there] at half
      exact nomatch half

/-- Promoting the layers of some types and casting them back settles the types. -/
theorem restore_cast :
    restore (record types.layers) (cast (promoted types.layers) .f32 types) = settle types := by
  rw [restore_eq (record_pairwise types), cast, settle, List.map_map]
  apply List.map_congr_left
  intro entry _
  simp only [Function.comp_apply, lookup_record, mem_promoted_iff]
  cases types.half? (LayerInfo.nameOfPath entry.1) <;> simp

end Record

/-- The layers that are promoted before a layer. -/
def promotedBefore (types : ParameterTypes) (layer : String) : List String :=
  (promoted types.layers).takeWhile (· != layer)

theorem half_of_mem_promotedBefore {types : ParameterTypes} {layer other : String}
    (earlier : other ∈ types.promotedBefore layer) : (types.half? other).isSome :=
  (mem_promoted_iff types other).mp ((List.takeWhile_subset _) earlier)

/-- Where the layers of some types are split by a promoted one, those before it are the ones that
are promoted before. -/
theorem promotedBefore_eq {types : ParameterTypes} {earlier later : List LayerInfo}
    {info : LayerInfo} (listed : types.layers = earlier ++ info :: later)
    (half : info.half?.isSome) : types.promotedBefore info.name = promoted earlier := by
  obtain ⟨dtype, half⟩ := Option.isSome_iff_exists.mp half
  have split : promoted types.layers = promoted earlier ++ info.name :: promoted later := by
    rw [listed, promoted_append, promoted, promoted, promoted, record_cons, half]
    rfl
  have apart : (promoted types.layers).Pairwise (· ≠ ·) := by
    rw [promoted, List.pairwise_map]
    exact record_pairwise types
  rw [split, List.pairwise_append] at apart
  rw [promotedBefore, split, List.takeWhile_append_of_pos fun name there => by
    simpa using apart.2.2 name there info.name (by simp)]
  simp

/-- Casting promoted layers to full precision changes every one of them. -/
theorem cast_eq_self_iff {types : ParameterTypes} {layers : List String}
    (halves : ∀ layer ∈ layers, (types.half? layer).isSome) :
    cast layers .f32 types = types ↔ layers = [] := by
  refine ⟨fun same => ?_, fun none => by rw [none, cast_nil]⟩
  cases layers with
  | nil => rfl
  | cons layer rest =>
      obtain ⟨dtype, half⟩ := Option.isSome_iff_exists.mp (halves layer (by simp))
      obtain ⟨entry, there, here, rfl⟩ :=
        (mem_within_iff types layer dtype).mp (List.mem_of_find?_eq_some half)
      have reduced : entry.2.isHalf = true := List.find?_some half
      have mapped : cast (layer :: rest) .f32 types = types.map id := by rw [same, List.map_id]
      rw [cast, List.map_inj_left] at mapped
      have full : DType.f32 = entry.2 := by
        simpa [here] using congrArg Prod.snd (mapped entry there)
      rw [← full] at reduced
      exact nomatch reduced

/-- A layer that was cast to full precision no longer looks reduced; the others look as before. -/
theorem half?_cast (layers : List String) (types : ParameterTypes) (layer : String) :
    (cast layers .f32 types).half? layer =
      if layer ∈ layers then none else types.half? layer := by
  have stands : within (cast layers .f32 types) layer =
      if layer ∈ layers then (within types layer).map fun _ => .f32 else within types layer := by
    induction types with
    | nil => simp [cast]
    | cons entry rest ih =>
        have split : cast layers .f32 (entry :: rest) =
            (entry.1, if LayerInfo.nameOfPath entry.1 ∈ layers then .f32 else entry.2) ::
              cast layers .f32 rest := rfl
        rw [split, within_cons, within_cons, ih]
        by_cases here : LayerInfo.nameOfPath entry.1 = layer
        · by_cases inside : layer ∈ layers <;> simp [here, inside]
        · simp [here]
  rw [half?, stands, half?]
  split
  · rw [List.find?_eq_none]
    rintro dtype there
    obtain ⟨-, -, rfl⟩ := List.mem_map.mp there
    nofun
  · rfl

/-- Every layer with reduced precision has one type only. -/
def Uniform (types : ParameterTypes) : Prop :=
  ∀ entry ∈ types, ∀ other ∈ types,
    LayerInfo.nameOfPath entry.1 = LayerInfo.nameOfPath other.1 → entry.2.isHalf = true →
      other.2 = entry.2

instance (types : ParameterTypes) : Decidable types.Uniform :=
  inferInstanceAs (Decidable (∀ entry ∈ types, ∀ other ∈ types,
    LayerInfo.nameOfPath entry.1 = LayerInfo.nameOfPath other.1 → entry.2.isHalf = true →
      other.2 = entry.2))

/-- Settling changes nothing exactly if every layer with reduced precision has one type only. -/
theorem settle_eq_self_iff (types : ParameterTypes) : settle types = types ↔ Uniform types := by
  have pointwise : settle types = types ↔
      ∀ entry ∈ types, (types.half? (LayerInfo.nameOfPath entry.1)).getD entry.2 = entry.2 := by
    have mapped : settle types = types ↔ settle types = types.map id := by rw [List.map_id]
    rw [mapped, settle, List.map_inj_left]
    simp [Prod.ext_iff]
  rw [pointwise]
  constructor
  · intro settled entry there other there' same half
    -- the layer has a first reduced-precision type, and both entries have settled on it
    have inside : entry.2 ∈ types.within (LayerInfo.nameOfPath entry.1) :=
      (mem_within_iff types _ _).mpr ⟨entry, there, rfl, rfl⟩
    obtain ⟨dtype, first⟩ : ∃ dtype, types.half? (LayerInfo.nameOfPath entry.1) = some dtype := by
      rw [← Option.isSome_iff_exists, ParameterTypes.half?, List.find?_isSome]
      exact ⟨entry.2, inside, half⟩
    have settled_here := settled entry there
    have settled_there := settled other there'
    rw [first, Option.getD_some] at settled_here
    rw [← same, first, Option.getD_some] at settled_there
    exact settled_there.symm.trans settled_here
  · intro uniform entry there
    cases first : types.half? (LayerInfo.nameOfPath entry.1) with
    | none => rfl
    | some dtype =>
        obtain ⟨other, there', same, rfl⟩ :=
          (mem_within_iff types _ _).mp (List.mem_of_find?_eq_some first)
        have half : other.2.isHalf = true := List.find?_some first
        exact (uniform other there' entry there same half).symm

end ParameterTypes

end Offload
