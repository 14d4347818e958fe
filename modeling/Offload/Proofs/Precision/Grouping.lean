/-
# Grouping parameters into layers

A model that does not say what its layers are gets them from the paths of its parameters. The
layers are a partition: they come in rising order of their names, none is empty, and each has the
types of the parameters whose paths belong to it, in the order in which the model lists them.
Nothing is assumed of the paths. They may lie in any order, be the same, begin or end with a dot,
or have no dot at all.
-/

import Mathlib.Data.List.TakeWhile
import Offload.Platform.Basic
import Offload.Proofs.Attempt
import Offload.Proofs.Lists
import Offload.Proofs.Precision.Types

namespace Offload

namespace LayerInfo

/-- The layer that a path belongs to is named by what stands before its last dot. A path without a
dot belongs to the layer without a name. -/
inductive Owns : String → String → Prop where
  | dotted (owner leaf : String) (plain : '.' ∉ leaf.toList) : Owns owner (owner ++ "." ++ leaf)
  | bare (path : String) (plain : '.' ∉ path.toList) : Owns "" path

/-- What is left of a path when the characters after its last dot are dropped, from the end. -/
private theorem reverse_dropWhile (owner : List Char) {leaf : List Char} (plain : '.' ∉ leaf) :
    (owner ++ '.' :: leaf).reverse.dropWhile (· != '.') = '.' :: owner.reverse := by
  have passed : ∀ char ∈ leaf.reverse, (char != '.') = true := by
    intro char there
    rw [bne_iff_ne]
    rintro rfl
    exact plain (List.mem_reverse.mp there)
  rw [List.reverse_append, List.reverse_cons, List.append_assoc,
    List.dropWhile_append_of_pos passed]
  rfl

theorem Owns.nameOfPath {owner path : String} (owns : Owns owner path) :
    nameOfPath path = owner := by
  cases owns with
  | dotted _ leaf plain =>
      have spelled : (owner ++ "." ++ leaf).toList = owner.toList ++ '.' :: leaf.toList := by simp
      rw [LayerInfo.nameOfPath, spelled, reverse_dropWhile _ plain]
      simp
  | bare _ plain =>
      have passed : path.toList.reverse.dropWhile (· != '.') = [] := by
        rw [List.dropWhile_eq_nil_iff]
        intro char there
        rw [bne_iff_ne]
        rintro rfl
        exact plain (List.mem_reverse.mp there)
      rw [LayerInfo.nameOfPath, passed]

/-- Every path belongs to a layer. -/
theorem exists_owns (path : String) : ∃ owner, Owns owner path := by
  by_cases dotted : '.' ∈ path.toList
  · obtain ⟨later, earlier, reversed, last⟩ :=
      List.eq_append_cons_of_mem (List.mem_reverse.mpr dotted)
    have split : path.toList = earlier.reverse ++ '.' :: later.reverse := by
      rw [← List.reverse_reverse path.toList, reversed]
      simp
    have spelled : path = String.ofList earlier.reverse ++ "." ++ String.ofList later.reverse := by
      rw [← String.toList_inj, split]
      simp
    rw [spelled]
    exact ⟨_, .dotted _ _ (by simpa using last)⟩
  · exact ⟨"", .bare path dotted⟩

/-- The layer of a path is found by looking for the last dot from the end. -/
theorem nameOfPath_eq_iff {owner path : String} : nameOfPath path = owner ↔ Owns owner path := by
  constructor
  · rintro rfl
    obtain ⟨owner, owns⟩ := exists_owns path
    rwa [owns.nameOfPath]
  · exact Owns.nameOfPath

example : ["a.b.weight", "weight", ".weight", "a.", "a..b", "."].map nameOfPath =
    ["a.b", "", "", "a", "a.", ""] := by decide +kernel

instance (owner path : String) : Decidable (Owns owner path) :=
  decidable_of_iff _ nameOfPath_eq_iff

/-- The parameters of a layer, in the order in which they are listed. -/
def members (parameters : List NamedParameter) (owner : String) : List NamedParameter :=
  parameters.filter fun parameter => Owns owner parameter.1

theorem members_eq (parameters : List NamedParameter) (owner : String) :
    members parameters owner =
      parameters.filter fun parameter => nameOfPath parameter.1 = owner := by
  apply List.filter_congr
  intro parameter _
  rw [decide_eq_decide, nameOfPath_eq_iff]

/-- The layers are what the parameters fall into. -/
structure Partition (parameters : List NamedParameter) (layers : List LayerInfo) : Prop where
  /-- The layers come in rising order of their names. -/
  rising : layers.Pairwise fun layer later => layer.name < later.name
  inhabited : ∀ layer ∈ layers, layer.dtypes ≠ []
  /-- A layer has the types of its parameters, in their order. -/
  dtypes : ∀ layer ∈ layers,
    layer.dtypes = (members parameters layer.name).map fun parameter => parameter.2.dtype
  /-- A parameter belongs to one of the layers only. -/
  once : ∀ parameter ∈ parameters, layers.countP (fun layer => Owns layer.name parameter.1) = 1
  /-- The layers together have each parameter as often as it is listed. -/
  whole : (layers.flatMap fun layer => members parameters layer.name).Perm parameters
  /-- No parameter is left out and none counted twice. -/
  total : (layers.flatMap LayerInfo.dtypes).length = parameters.length
  /-- The reduced-precision type of a layer is that of its first parameter which has one. -/
  half : ∀ layer ∈ layers, layer.half? = ((members parameters layer.name).find? fun parameter =>
    parameter.2.dtype.isHalf).map fun parameter => parameter.2.dtype

end LayerInfo

open LayerInfo in
/-- What stands in a layer are the types of its parameters. -/
theorem ParameterTypes.within_of (parameters : List NamedParameter) (owner : String) :
    (of parameters).within owner =
      (members parameters owner).map fun parameter => parameter.2.dtype := by
  rw [within, of, List.filter_map, List.map_map, members_eq]
  rfl

namespace LayerInfo

open ParameterTypes in
/-- A layer is listed exactly if some parameter belongs to it. -/
private theorem mem_names_ofParameters (parameters : List NamedParameter)
    {parameter : NamedParameter} (there : parameter ∈ parameters) :
    nameOfPath parameter.1 ∈ (ofParameters parameters).map LayerInfo.name := by
  have stands : parameter.2.dtype ∈ (of parameters).within (nameOfPath parameter.1) :=
    (mem_within_iff _ _ _).mpr ⟨_, List.mem_map_of_mem there, rfl, rfl⟩
  rw [List.mem_map, ofParameters_eq]
  exact ⟨⟨_, (of parameters).within (nameOfPath parameter.1)⟩,
    (mem_layers_iff _ _).mpr ⟨rfl, List.ne_nil_of_mem stands⟩, rfl⟩

open ParameterTypes in
/-- The layers of some parameters are what they fall into. -/
theorem partition_ofParameters (parameters : List NamedParameter) :
    Partition parameters (ofParameters parameters) := by
  have rising : (ofParameters parameters).Pairwise fun layer later => layer.name < later.name :=
    List.pairwise_map.mpr (parameters.foldl addTo Dict.empty).sorted
  have distinct : ((ofParameters parameters).map LayerInfo.name).Nodup :=
    List.pairwise_map.mpr (rising.imp fun below => String.ne_of_lt below)
  have listed (layer : LayerInfo) (there : layer ∈ ofParameters parameters) :
      layer.dtypes = (members parameters layer.name).map (fun parameter => parameter.2.dtype) ∧
        layer.dtypes ≠ [] := by
    rw [ofParameters_eq, mem_layers_iff, within_of] at there
    exact there
  have covers (parameter : NamedParameter) (there : parameter ∈ parameters) :=
    mem_names_ofParameters parameters there
  have whole : ((ofParameters parameters).flatMap fun layer =>
      members parameters layer.name).Perm parameters := by
    have fibres := flatMap_filter_perm (fun parameter : NamedParameter => nameOfPath parameter.1)
      distinct covers
    rw [List.flatMap_map] at fibres
    simpa only [members_eq] using fibres
  exact
    { rising := rising
      inhabited := fun layer there => (listed layer there).2
      dtypes := fun layer there => (listed layer there).1
      once := by
        intro parameter there
        have counted := List.count_eq_one_of_mem distinct (covers parameter there)
        rw [List.count, List.countP_map] at counted
        rw [← counted]
        apply List.countP_congr
        intro layer _
        rw [decide_eq_true_iff, ← nameOfPath_eq_iff, Function.comp_apply, beq_iff_eq, eq_comm]
      whole := whole
      total := by
        rw [← whole.length_eq, List.length_flatMap, List.length_flatMap]
        congr 1
        apply List.map_congr_left
        intro layer there
        rw [(listed layer there).1, List.length_map]
      half := by
        intro layer there
        rw [half?, (listed layer there).1, List.find?_map]
        rfl }

end LayerInfo

namespace ModelInterface

variable {World Model : Type}

/-- A model without an answer of its own is asked for its parameters. If they can be read, its
layers are what they fall into; otherwise asking for the layers fails with the same cause. -/
theorem default_layers_partition (signature : Model → Signature)
    (forward : Model → List Tree → Attempt World Tree)
    (parameters : Model → Attempt World (List NamedParameter))
    (castLayer : String → DType → Attempt (Model × World) Unit) (model : Model) (world : World) :
    let interface : ModelInterface World Model :=
      { signature := signature, forward := forward, parameters := parameters,
        castLayer := castLayer }
    Attempt.Ends (parameters model) world
      (fun named reached => ∃ layers,
        (interface.layers model).perform world = (.ok layers, reached) ∧
          LayerInfo.Partition named layers)
      fun cause reached => (interface.layers model).perform world = (.error cause, reached) := by
  intro interface
  have asked : interface.layers model =
      do return LayerInfo.ofParameters (← interface.parameters model) := rfl
  unfold Attempt.Ends
  rw [asked, Attempt.perform_bind]
  rcases Attempt.perform (interface.parameters model) world with ⟨cause | named, reached⟩
  · rfl
  · exact ⟨_, rfl, LayerInfo.partition_ofParameters named⟩

end ModelInterface

end Offload
