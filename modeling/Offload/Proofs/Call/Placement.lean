/-
# Where arguments go

A parameter is filled by the argument in its place, else by the first argument under its name, else
by its default; the first parameter that has none of these but a default of nothing ends the
binding. So much can be read off the walk over the parameters (`fills_of_collect`). That nothing
supplied is lost is checked nowhere in it. It follows from what an accepted call has been checked
for: an argument for a parameter beyond the end would be one after a hole, an argument without a
parameter a keyword that is unknown or one too many, and two arguments for one parameter a
repetition.
-/

import Offload.Proofs.Call.Acceptance

namespace Offload

namespace CallArguments

variable (signature : Signature) (call : CallArguments)

/-- The argument supplied for the parameter of a name at a position. -/
def argument? (position : Nat) (name : String) : Option Tree :=
  call.positional[position]?.or (call.keyword? name)

/-- What the parameter at a position is bound to, if to anything: the argument supplied for it, or
its default. -/
def filling? (position : Nat) (parameter : Parameter) : Option Tree :=
  (call.argument? position parameter.name).or parameter.default?

/-- The arguments of a call, those by position first. -/
def arguments : List Tree := call.positional ++ call.keyword.map Prod.snd

/-- Where the arguments belong, in the same order: in their own places, and at the positions of
their names. -/
def places : List Nat :=
  List.range call.positional.length ++
    call.keyword.filterMap fun entry => signature.position? entry.1

/-- These names and arguments are what the parameters from a position on are bound to: one after
the other, up to the first that is left empty. -/
structure Fills (start : Nat) (bound : List (String × Tree)) : Prop where
  entry : ∀ index entry, bound[index]? = some entry →
    ∃ parameter, signature.parameters[start + index]? = some parameter ∧
      parameter.name = entry.1 ∧ call.filling? (start + index) parameter = some entry.2 ∧
        ∀ name, ¬ call.Hole signature name (start + index)
  stop : start + bound.length = signature.parameters.length ∨
    ∃ name, call.Hole signature name (start + bound.length)

variable {signature call}

/-! ## What is supplied -/

theorem supplies_iff {position : Nat} {name : String} :
    call.Supplies position name ↔ call.argument? position name ≠ none := by
  rw [Supplies, argument?, Ne, Option.or_eq_none_iff, not_and_or, List.getElem?_eq_none_iff,
    Nat.not_le, keyword?_eq_none_iff, not_not]

theorem argument?_of_position {position : Nat} {argument : Tree}
    (given : call.positional[position]? = some argument) (name : String) :
    call.argument? position name = some argument := by
  rw [argument?, given, Option.some_or]

theorem argument?_of_beyond {position : Nat} (beyond : call.positional.length ≤ position)
    (name : String) : call.argument? position name = call.keyword? name := by
  rw [argument?, List.getElem?_eq_none beyond, Option.none_or]

theorem not_hole_of_argument? {position : Nat} {parameter : Parameter} {argument : Tree}
    (there : signature.parameters[position]? = some parameter)
    (given : call.argument? position parameter.name = some argument) (name : String) :
    ¬ call.Hole signature name position :=
  not_hole_of_supplied there (supplies_iff.mpr (given ▸ Option.some_ne_none argument)) name

/-- No name is among the keywords twice. -/
theorem nodup_of_single (single : ∀ index name, ¬ call.Repeats signature index name) :
    (call.keyword.map Prod.fst).Nodup := by
  rw [List.nodup_iff_getElem?_ne_getElem?]
  intro earlier index before inside same
  rw [List.length_map] at inside
  rw [List.getElem?_map, List.getElem?_map, List.getElem?_eq_getElem inside,
    List.getElem?_eq_getElem (before.trans inside), Option.map_some, Option.map_some,
    Option.some_inj] at same
  refine single index call.keyword[index].1 ⟨⟨_, List.getElem?_eq_getElem inside⟩, .inl ?_⟩
  exact ⟨earlier, before, call.keyword[earlier].2, by
    rw [List.getElem?_eq_getElem (before.trans inside), ← same]⟩

/-- Of keywords without repetition each is the first of its name. -/
theorem keyword?_eq_some_iff (distinct : (call.keyword.map Prod.fst).Nodup) {name : String}
    {argument : Tree} : call.keyword? name = some argument ↔ (name, argument) ∈ call.keyword := by
  constructor
  · intro given
    obtain ⟨⟨other, _⟩, found, rfl⟩ := Option.map_eq_some_iff.mp given
    obtain rfl : other = name := by simpa using List.find?_some found
    exact List.mem_of_find?_eq_some found
  · intro given
    cases looked : call.keyword? name with
    | none => exact absurd ⟨argument, given⟩ (keyword?_eq_none_iff.mp looked)
    | some other =>
        obtain ⟨⟨same, _⟩, found, rfl⟩ := Option.map_eq_some_iff.mp looked
        obtain rfl : same = name := by simpa using List.find?_some found
        have equal := List.inj_on_of_nodup_map distinct (List.mem_of_find?_eq_some found) given rfl
        rw [(Prod.mk.inj equal).2]

/-! ## What the walk over the parameters binds -/

namespace Fills

variable {start : Nat} {bound others : List (String × Tree)}

/-- A parameter that is filled comes before what is bound after it. -/
theorem cons {parameter : Parameter} {argument : Tree}
    (there : signature.parameters[start]? = some parameter)
    (filled : call.filling? start parameter = some argument)
    (solid : ∀ name, ¬ call.Hole signature name start)
    (rest : call.Fills signature (start + 1) bound) :
    call.Fills signature start ((parameter.name, argument) :: bound) := by
  constructor
  · intro index entry here
    cases index with
    | zero =>
        obtain rfl := Option.some.inj here
        exact ⟨parameter, there, rfl, filled, solid⟩
    | succ index =>
        rw [← Nat.add_assoc, Nat.add_right_comm]
        exact rest.entry index entry here
  · rw [List.length_cons, ← Nat.add_assoc, Nat.add_right_comm]
    exact rest.stop

/-- What is bound ends no earlier than something else that is bound. -/
theorem length_le (fills : call.Fills signature start bound)
    (fills' : call.Fills signature start others) : bound.length ≤ others.length := by
  by_contra longer
  have inside : others.length < bound.length := Nat.lt_of_not_le longer
  obtain ⟨parameter, there, -, -, solid⟩ :=
    fills.entry others.length _ (List.getElem?_eq_getElem inside)
  rcases fills'.stop with all | ⟨name, hole⟩
  · rw [all, List.getElem?_eq_none (Nat.le_refl _)] at there
    cases there
  · exact solid name hole

/-- Only one list of names and arguments is what the parameters are bound to. -/
theorem unique (fills : call.Fills signature start bound)
    (fills' : call.Fills signature start others) : bound = others := by
  refine List.ext_getElem (Nat.le_antisymm (fills.length_le fills') (fills'.length_le fills)) ?_
  intro index inside inside'
  obtain ⟨parameter, there, name, filled, -⟩ :=
    fills.entry index _ (List.getElem?_eq_getElem inside)
  obtain ⟨parameter', there', name', filled', -⟩ :=
    fills'.entry index _ (List.getElem?_eq_getElem inside')
  obtain rfl := Option.some.inj (there.symm.trans there')
  exact Prod.ext (name.symm.trans name') (Option.some.inj (filled.symm.trans filled'))

/-- The bound names are the first of the declared ones. -/
theorem names_prefix (fills : call.Fills signature 0 bound) :
    bound.map Prod.fst <+: signature.names := by
  refine List.prefix_iff_getElem?.mpr fun index inside => ?_
  rw [List.length_map] at inside
  obtain ⟨parameter, there, name, -⟩ := fills.entry index _ (List.getElem?_eq_getElem inside)
  rw [Nat.zero_add] at there
  rw [Signature.names, List.getElem?_map, there, Option.map_some, name, List.getElem_map]

/-- What is bound is never left empty. -/
theorem solid (fills : call.Fills signature 0 bound) {position : Nat}
    (inside : position < bound.length) (name : String) : ¬ call.Hole signature name position := by
  obtain ⟨-, -, -, -, solid⟩ := fills.entry position _ (List.getElem?_eq_getElem inside)
  rw [Nat.zero_add] at solid
  exact solid name

/-- A parameter that is bound is bound under its name to what it is filled with. -/
theorem filled (fills : call.Fills signature 0 bound) {position : Nat} {parameter : Parameter}
    (there : signature.parameters[position]? = some parameter) (inside : position < bound.length) :
    parameter.name = bound[position].1 ∧
      call.filling? position parameter = some bound[position].2 := by
  obtain ⟨parameter', there', name, filled, -⟩ :=
    fills.entry position _ (List.getElem?_eq_getElem inside)
  rw [Nat.zero_add] at there' filled
  obtain rfl := Option.some.inj (there.symm.trans there')
  exact ⟨name, filled⟩

end Fills

end CallArguments

namespace Binding

open CallArguments

variable {signature : Signature} {call : CallArguments}

/-- After a hole nothing is bound. -/
private theorem eq_nil_of_collect {later : List Parameter} {position : Nat}
    {holes : List (String × Nat)} {bound : List (String × Tree)} (left : holes ≠ [])
    (beyond : call.positional.length ≤ position)
    (collected : collect call position holes later = .ok bound) : bound = [] := by
  have unfilled : holes.isEmpty = false := by simpa using left
  induction later generalizing position holes with
  | nil => exact (Except.ok.inj collected).symm
  | cons parameter later ih =>
      rw [collect, List.getElem?_eq_none beyond] at collected
      simp only [unfilled, Bool.false_eq_true, if_false] at collected
      split at collected
      · cases collected
      · split at collected
        · cases collected
        · split at collected
          · exact ih (by simp) (Nat.le_succ_of_le beyond) collected (by simp)
          · exact ih left (Nat.le_succ_of_le beyond) collected unfilled

/-- A walk from a position without holes before it binds what the parameters are filled with. -/
theorem fills_of_collect {before later : List Parameter} {bound : List (String × Tree)}
    (all : signature.parameters = before ++ later)
    (collected : collect call before.length [] later = .ok bound) :
    call.Fills signature before.length bound := by
  induction later generalizing before bound with
  | nil =>
      obtain rfl := (Except.ok.inj collected).symm
      exact ⟨nofun, .inl (by rw [all, List.append_nil]; rfl)⟩
  | cons parameter later ih =>
      have there : signature.parameters[before.length]? = some parameter := by
        rw [all, List.getElem?_append_right (Nat.le_refl _), Nat.sub_self, List.getElem?_cons_zero]
      have go {argument : Tree} (filled : call.filling? before.length parameter = some argument)
          (solid : ∀ name, ¬ call.Hole signature name before.length)
          (collected : (collect call (before.length + 1) [] later).map
            ((parameter.name, argument) :: ·) = .ok bound) :
          call.Fills signature before.length bound := by
        cases walked : collect call (before.length + 1) [] later with
        | error cause =>
            rw [walked] at collected
            cases collected
        | ok rest =>
            rw [walked] at collected
            obtain rfl := Except.ok.inj collected
            have fills := @ih (before ++ [parameter]) rest (by rw [all, List.append_assoc]; rfl)
            rw [List.length_append, List.length_singleton] at fills
            exact .cons there filled solid (fills walked)
      rw [collect] at collected
      split at collected
      next argument given =>
        have given := argument?_of_position given parameter.name
        exact go (by rw [filling?, given, Option.some_or]) (not_hole_of_argument? there given)
          collected
      next absent =>
        have beyond : call.positional.length ≤ before.length := List.getElem?_eq_none_iff.mp absent
        split at collected
        next argument given =>
          rw [← argument?_of_beyond beyond] at given
          exact go (by rw [filling?, given, Option.some_or]) (not_hole_of_argument? there given)
            collected
        next unnamed =>
          rw [← argument?_of_beyond beyond] at unnamed
          have unsupplied : ¬ call.Supplies before.length parameter.name :=
            fun supplied => supplies_iff.mp supplied unnamed
          split at collected
          next mandatory => cases collected
          next argument default =>
            split at collected
            next nothing =>
              rw [Tree.isAbsent_iff.mp nothing] at default
              obtain rfl := eq_nil_of_collect (by simp) (Nat.le_succ_of_le beyond) collected
              exact ⟨nofun, .inr ⟨parameter.name, parameter, there, rfl, unsupplied, default⟩⟩
            next something =>
              refine go (by rw [filling?, unnamed, Option.none_or, default])
                (not_hole_of_default there default fun absent => ?_) collected
              exact something (Tree.isAbsent_iff.mpr absent)

/-- Only an acceptable call binds, and to what its parameters are filled with. -/
theorem fills_of_bind {binding : Binding} (bound : bind signature call = .ok binding) :
    call.Acceptable signature ∧ ∃ entries, call.Fills signature 0 entries ∧
      binding = ⟨entries.map Prod.fst, entries.map Prod.snd⟩ := by
  have outcome := bind_outcome signature call
  rw [bound] at outcome
  refine ⟨outcome, ?_⟩
  rw [bind] at bound
  split at bound
  · cases bound
  · split at bound
    · cases bound
    · split at bound
      · cases bound
      · cases walked : collect call 0 [] signature.parameters with
        | error cause =>
            rw [walked] at bound
            cases bound
        | ok entries =>
            rw [walked] at bound
            exact ⟨entries, @fills_of_collect _ _ [] _ _ rfl walked, (Except.ok.inj bound).symm⟩

end Binding

/-! ## Nothing supplied is lost -/

namespace CallArguments

variable {signature : Signature} {call : CallArguments}

/-- The holes before any position can be listed. -/
theorem exists_lists (position : Nat) : ∃ holes, call.Lists signature holes position := by
  induction position with
  | zero => exact ⟨[], lists_zero⟩
  | succ position ih =>
      obtain ⟨holes, listed⟩ := ih
      by_cases empty : ∃ name, call.Hole signature name position
      · obtain ⟨name, hole⟩ := empty
        exact ⟨_, listed.concat hole⟩
      · exact ⟨holes, listed.skip (not_exists.mp empty)⟩

/-- After a hole an acceptable call supplies nothing. -/
theorem Acceptable.unsupplied_after (acceptable : call.Acceptable signature) {name : String}
    {place position : Nat} {parameter : Parameter} (hole : call.Hole signature name place)
    (after : place < position) (there : signature.parameters[position]? = some parameter) :
    ¬ call.Supplies position parameter.name := by
  have beyond : ¬ position < call.positional.length := by
    obtain ⟨-, -, -, unsupplied, -⟩ := hole
    exact fun inside => unsupplied (.inl (after.trans inside))
  rintro (inside | named)
  · exact beyond inside
  · obtain ⟨holes, listed⟩ := exists_lists position
    have left : holes ≠ [] := List.ne_nil_of_mem ((listed.holds (name, place)).mpr ⟨after, hole⟩)
    exact acceptable.sound position _ (.afterHole there ⟨beyond, named⟩ listed left)

/-- A parameter that an acceptable call supplies is bound to what it is supplied with. -/
theorem Fills.getElem?_of_argument? {bound : List (String × Tree)}
    (fills : call.Fills signature 0 bound) (acceptable : call.Acceptable signature) {position : Nat}
    {parameter : Parameter} {argument : Tree}
    (there : signature.parameters[position]? = some parameter)
    (given : call.argument? position parameter.name = some argument) :
    bound[position]? = some (parameter.name, argument) := by
  have supplied : call.Supplies position parameter.name :=
    supplies_iff.mpr (given ▸ Option.some_ne_none argument)
  have inside : position < bound.length := by
    by_contra beyond
    have beyond := Nat.le_of_not_lt beyond
    rcases fills.stop with all | ⟨name, hole⟩
    · have declared := (List.getElem?_eq_some_iff.mp there).1
      omega
    · rw [Nat.zero_add] at hole
      rcases Nat.eq_or_lt_of_le beyond with rfl | after
      · exact not_hole_of_supplied there supplied name hole
      · exact acceptable.unsupplied_after hole after there supplied
  obtain ⟨name, filled⟩ := fills.filled there inside
  rw [filling?, given, Option.some_or] at filled
  rw [List.getElem?_eq_getElem inside, Option.some.inj filled, name]

/-- Where an acceptable call has a keyword, that is what it supplies. -/
theorem Acceptable.argument?_of_keyword (acceptable : call.Acceptable signature) {name : String}
    {argument : Tree} (given : (name, argument) ∈ call.keyword) {position : Nat}
    (first : signature.FirstAt name position) : call.argument? position name = some argument := by
  obtain ⟨index, there⟩ := List.mem_iff_getElem?.mp given
  have beyond : call.positional.length ≤ position := Nat.le_of_not_lt fun inside =>
    acceptable.single index name ⟨⟨argument, there⟩, .inr ⟨position, inside, first⟩⟩
  rw [argument?_of_beyond beyond]
  exact (keyword?_eq_some_iff (nodup_of_single acceptable.single)).mpr given

/-- Every keyword of an acceptable call has a position. -/
theorem Acceptable.exists_firstAt (acceptable : call.Acceptable signature) {name : String}
    {argument : Tree} (given : (name, argument) ∈ call.keyword) :
    ∃ position, signature.FirstAt name position := by
  obtain ⟨index, there⟩ := List.mem_iff_getElem?.mp given
  cases found : signature.position? name with
  | some position => exact ⟨position, Signature.position?_eq_some_iff.mp found⟩
  | none =>
      have unknown := Signature.position?_eq_none_iff.mp found
      exact absurd ⟨⟨argument, there⟩, unknown⟩ (acceptable.known index name)

/-- No two arguments of an acceptable call belong in one place. -/
theorem Acceptable.nodup_places (acceptable : call.Acceptable signature) :
    (call.places signature).Nodup := by
  have named : call.keyword.filterMap (fun entry => signature.position? entry.1) =
      (call.keyword.map Prod.fst).filterMap signature.position? := by
    rw [List.filterMap_map]
    rfl
  rw [places, List.nodup_append]
  refine ⟨List.nodup_range, ?_, ?_⟩
  · rw [named]
    refine (nodup_of_single acceptable.single).filterMap fun name other position here here' => ?_
    obtain ⟨⟨parameter, there, rfl⟩, -⟩ := Signature.position?_eq_some_iff.mp here
    obtain ⟨⟨parameter', there', rfl⟩, -⟩ := Signature.position?_eq_some_iff.mp here'
    rw [Option.some.inj (there.symm.trans there')]
  · rintro position inside _ named rfl
    obtain ⟨⟨name, argument⟩, given, here⟩ := List.mem_filterMap.mp named
    obtain ⟨index, there⟩ := List.mem_iff_getElem?.mp given
    exact acceptable.single index name ⟨⟨argument, there⟩, .inr ⟨position,
      List.mem_range.mp inside, Signature.position?_eq_some_iff.mp here⟩⟩

end CallArguments

/-- The position of a parameter is the only one of its name, if no name is declared twice. -/
theorem Signature.firstAt_of_nodup {signature : Signature} (distinct : signature.names.Nodup)
    {position : Nat} {parameter : Parameter}
    (there : signature.parameters[position]? = some parameter) :
    signature.FirstAt parameter.name position := by
  refine ⟨⟨parameter, there, rfl⟩, fun earlier before other there' same => ?_⟩
  have inside := (List.getElem?_eq_some_iff.mp there).1
  refine List.nodup_iff_getElem?_ne_getElem?.mp distinct earlier position before
    (by rwa [names, List.length_map]) ?_
  rw [names, List.getElem?_map, List.getElem?_map, there, there', Option.map_some, Option.map_some,
    same]

namespace Binding

open CallArguments

/-- A binding holds every argument of a call in exactly one place, the one it belongs in, and
defaults in all other places. -/
structure Conserves (signature : Signature) (call : CallArguments) (binding : Binding) : Prop where
  /-- The bound names are the first of the declared ones, -/
  names : binding.names <+: signature.names
  /-- up to the end or to a parameter that is left empty, -/
  ends : binding.names.length = signature.size ∨
    ∃ name, call.Hole signature name binding.names.length
  /-- and none of theirs is left empty. -/
  solid : ∀ position < binding.names.length, ∀ name, ¬ call.Hole signature name position
  /-- There is one argument for each name. -/
  paired : binding.arguments.length = binding.names.length
  /-- An argument by position is bound at its index. -/
  positional : ∀ (index : Nat) (argument : Tree), call.positional[index]? = some argument →
    binding.arguments[index]? = some argument
  /-- An argument by keyword is bound at the position of its name. -/
  keyword : ∀ (name : String) (argument : Tree), (name, argument) ∈ call.keyword →
    ∃ position, signature.FirstAt name position ∧ binding.arguments[position]? = some argument
  /-- What is bound in any other place is the default. -/
  default : ∀ (position : Nat) (parameter : Parameter),
    signature.parameters[position]? = some parameter → position ∉ call.places signature →
      position < binding.arguments.length → binding.arguments[position]? = parameter.default?
  /-- Each argument is bound in its place, -/
  placed : List.Forall₂ (fun place argument => binding.arguments[place]? = some argument)
    (call.places signature) call.arguments
  /-- and no two of them share one. -/
  once : (call.places signature).Nodup
  /-- At least as many arguments are bound as are supplied. -/
  size : call.size ≤ binding.arguments.length
  /-- After a parameter that is left empty none is supplied. -/
  after : ∀ (name : String) (place : Nat), call.Hole signature name place →
    ∀ (position : Nat) (parameter : Parameter), place < position →
      signature.parameters[position]? = some parameter → ¬ call.Supplies position parameter.name

/-- A parameter in whose place no argument belongs is not supplied. -/
theorem argument?_of_not_mem_places {signature : Signature} {call : CallArguments}
    (distinct : signature.names.Nodup) {position : Nat} {parameter : Parameter}
    (there : signature.parameters[position]? = some parameter)
    (apart : position ∉ call.places signature) :
    call.argument? position parameter.name = none := by
  rw [places, List.mem_append, not_or, List.mem_range, Nat.not_lt] at apart
  rw [argument?_of_beyond apart.1, keyword?_eq_none_iff]
  rintro ⟨argument, given⟩
  exact apart.2 (List.mem_filterMap.mpr ⟨_, given,
    Signature.position?_eq_some_iff.mpr (Signature.firstAt_of_nodup distinct there)⟩)

/-- Arguments that are bound in places of their own are no more than there are bound. -/
theorem length_le_of_placed {places : List Nat} {given bound : List Tree}
    (placed : List.Forall₂ (fun place argument => bound[place]? = some argument) places given)
    (once : places.Nodup) : given.length ≤ bound.length := by
  have inside : places ⊆ List.range bound.length := by
    intro place there
    obtain ⟨index, known, rfl⟩ := List.mem_iff_getElem.mp there
    have here := placed.get known (placed.length_eq ▸ known)
    exact List.mem_range.mpr (List.getElem?_eq_some_iff.mp here).1
  have fewer := (List.subperm_of_subset once inside).length_le
  rwa [placed.length_eq, List.length_range] at fewer

/-- Keywords that are bound at the positions of their names are bound in their places. -/
private theorem placed_keywords {signature : Signature} {bound : List Tree} :
    ∀ {entries : List (String × Tree)},
      (∀ name argument, (name, argument) ∈ entries →
        ∃ position, signature.FirstAt name position ∧ bound[position]? = some argument) →
      List.Forall₂ (fun place argument => bound[place]? = some argument)
        (entries.filterMap fun entry => signature.position? entry.1) (entries.map Prod.snd)
  | [], _ => .nil
  | (name, argument) :: entries, each => by
      obtain ⟨position, first, here⟩ := each name argument List.mem_cons_self
      have others := @placed_keywords signature bound entries fun name argument there =>
        each name argument (List.mem_cons_of_mem _ there)
      have found : signature.position? name = some position :=
        Signature.position?_eq_some_iff.mpr first
      rw [List.filterMap_cons_some (a := (name, argument)) found]
      exact .cons here others

/-- If no two parameters have one name, a call that binds is conserved. -/
theorem bind_conserves {signature : Signature} {call : CallArguments} {binding : Binding}
    (distinct : signature.names.Nodup) (bound : bind signature call = .ok binding) :
    binding.Conserves signature call := by
  obtain ⟨acceptable, entries, fills, rfl⟩ := fills_of_bind bound
  have supplied {position : Nat} {parameter : Parameter} {argument : Tree}
      (there : signature.parameters[position]? = some parameter)
      (given : call.argument? position parameter.name = some argument) :
      (entries.map Prod.snd)[position]? = some argument := by
    rw [List.getElem?_map, fills.getElem?_of_argument? acceptable there given, Option.map_some]
  have positional (index : Nat) (argument : Tree) (given : call.positional[index]? = some argument) :
      (entries.map Prod.snd)[index]? = some argument := by
    have within := acceptable.within
    have inside := (List.getElem?_eq_some_iff.mp given).1
    exact supplied (List.getElem?_eq_getElem (by omega)) (argument?_of_position given _)
  have keyword (name : String) (argument : Tree) (given : (name, argument) ∈ call.keyword) :
      ∃ position, signature.FirstAt name position ∧
        (entries.map Prod.snd)[position]? = some argument := by
    obtain ⟨position, first⟩ := acceptable.exists_firstAt given
    obtain ⟨⟨parameter, there, rfl⟩, -⟩ := id first
    exact ⟨position, first, supplied there (acceptable.argument?_of_keyword given first)⟩
  have placed : List.Forall₂ (fun place argument => (entries.map Prod.snd)[place]? = some argument)
      (call.places signature) call.arguments := by
    refine List.rel_append (List.forall₂_iff_get.mpr ⟨List.length_range, ?_⟩)
      (placed_keywords keyword)
    intro index inside inside'
    rw [List.get_eq_getElem, List.getElem_range]
    exact positional index _ (List.getElem?_eq_getElem inside')
  refine
    { names := fills.names_prefix, ends := ?_, solid := ?_, paired := ?_, positional, keyword
      default := ?_, placed, once := acceptable.nodup_places, size := ?_
      after := fun name hole empty position parameter after there =>
        acceptable.unsupplied_after empty after there }
  · have stop := fills.stop
    rwa [Nat.zero_add, ← List.length_map Prod.fst] at stop
  · intro position inside
    rw [List.length_map] at inside
    exact fills.solid inside
  · rw [List.length_map, List.length_map]
  · intro position parameter there apart inside
    rw [List.length_map] at inside
    obtain ⟨-, filled⟩ := fills.filled there inside
    rw [filling?, argument?_of_not_mem_places distinct there apart, Option.none_or] at filled
    rw [List.getElem?_map, List.getElem?_eq_getElem inside, Option.map_some, filled]
  · have fewer := length_le_of_placed placed acceptable.nodup_places
    rwa [CallArguments.arguments, List.length_append, List.length_map] at fewer

/-- A parameter with a default between two without, and then one that defaults to nothing. -/
def gappedSignature : Signature :=
  ⟨[⟨"a", none⟩, ⟨"b", some (.leaf (.int 7))⟩, ⟨"c", none⟩, ⟨"d", some .absent⟩,
    ⟨"e", some (.leaf (.int 5))⟩]⟩

/-- A call that passes over the second parameter, and gives nothing from the fourth on. -/
def gappedCall : CallArguments := ⟨[.leaf (.int 1)], [("c", .leaf (.int 3))]⟩

/-- The default stands between the two arguments, and the default after the hole is dropped. -/
theorem gapped_call_conserves :
    gappedSignature.names.Nodup ∧
      bind gappedSignature gappedCall =
        .ok ⟨["a", "b", "c"], [.leaf (.int 1), .leaf (.int 7), .leaf (.int 3)]⟩ ∧
      Conserves gappedSignature gappedCall
        ⟨["a", "b", "c"], [.leaf (.int 1), .leaf (.int 7), .leaf (.int 3)]⟩ :=
  ⟨by decide, rfl, bind_conserves (by decide) rfl⟩

end Binding

end Offload
