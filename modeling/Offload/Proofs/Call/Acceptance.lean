/-
# Which calls bind

What can be wrong with a call is stated about positions alone: which keyword repeats what, which
parameter is supplied, which parameters before it were left empty. None of these notions runs
through the arguments, so none of them keeps the names seen so far or the holes left so far, as
the binder does. `Refusal` says which cause such faults are reported with and in which precedence,
and `bind_error_iff_and_bind_ok_iff` that the binder reports exactly that and succeeds exactly when
nothing is wrong.

The walk over the parameters carries the holes as a list that grows. `Lists` ties that list to the
positions it stands for, and the induction of `collect_reports` is on the parameters not yet
visited with this as its invariant.
-/

import Mathlib.Data.List.Sort
import Offload.Call.Binding

namespace Offload

/-- A search from a position on reports the first fault there is, and nothing if there is none. -/
def Reports {ε : Type} (faulty : Nat → ε → Prop) (start : Nat) : Option ε → Prop
  | some found => ∃ position, faulty position found ∧
      ∀ earlier, start ≤ earlier → earlier < position → ∀ other, ¬ faulty earlier other
  | none => ∀ position, start ≤ position → ∀ other, ¬ faulty position other

namespace Reports

variable {ε : Type} {faulty : Nat → ε → Prop} {start : Nat}

/-- A fault at the start is the first. -/
theorem here {found : ε} (fault : faulty start found) : Reports faulty start (some found) :=
  ⟨start, fault, fun _ after before => absurd before (Nat.not_lt.mpr after)⟩

/-- Without a fault at the start the search goes on. -/
theorem next {outcome : Option ε} (sound : ∀ other, ¬ faulty start other)
    (later : Reports faulty (start + 1) outcome) : Reports faulty start outcome := by
  cases outcome with
  | some found =>
      obtain ⟨position, fault, first⟩ := later
      refine ⟨position, fault, fun earlier after before other => ?_⟩
      rcases Nat.eq_or_lt_of_le after with rfl | further
      · exact sound other
      · exact first earlier further before other
  | none =>
      intro position after other
      rcases Nat.eq_or_lt_of_le after with rfl | further
      · exact sound other
      · exact later position further other

/-- The first fault of all is one fault only, if each place has one fault only. -/
theorem first_unique {found other : ε} {position place : Nat}
    (unique : ∀ position found other, faulty position found → faulty position other →
      found = other)
    (fault : faulty position found) (first : ∀ earlier < position, ∀ other, ¬ faulty earlier other)
    (fault' : faulty place other) (first' : ∀ earlier < place, ∀ other, ¬ faulty earlier other) :
    found = other := by
  rcases Nat.lt_trichotomy position place with before | rfl | after
  · exact absurd fault (first' position before found)
  · exact unique position found other fault fault'
  · exact absurd fault' (first place after other)

end Reports

/-- A name is declared, and this is its first position. -/
def Signature.FirstAt (signature : Signature) (name : String) (position : Nat) : Prop :=
  (∃ parameter, signature.parameters[position]? = some parameter ∧ parameter.name = name) ∧
    ∀ earlier < position, ∀ parameter, signature.parameters[earlier]? = some parameter →
      parameter.name ≠ name

theorem Signature.position?_eq_some_iff {signature : Signature} {name : String} {position : Nat} :
    signature.position? name = some position ↔ signature.FirstAt name position := by
  rw [Signature.position?, List.findIdx?_eq_some_iff_getElem]
  constructor
  · rintro ⟨inside, named, first⟩
    refine ⟨⟨_, List.getElem?_eq_getElem inside, by simpa using named⟩, ?_⟩
    intro earlier before parameter there
    obtain ⟨_, rfl⟩ := List.getElem?_eq_some_iff.mp there
    simpa using first earlier before
  · rintro ⟨⟨parameter, there, named⟩, first⟩
    obtain ⟨inside, rfl⟩ := List.getElem?_eq_some_iff.mp there
    refine ⟨inside, by simpa using named, ?_⟩
    intro earlier before
    simpa using first earlier before _ (List.getElem?_eq_getElem (before.trans inside))

theorem Signature.position?_eq_none_iff {signature : Signature} {name : String} :
    signature.position? name = none ↔
      ∀ parameter ∈ signature.parameters, parameter.name ≠ name := by
  simp [Signature.position?, List.findIdx?_eq_none_iff]

namespace CallArguments

variable (signature : Signature) (call : CallArguments)

/-- The keyword at an index supplies what an earlier keyword, or an argument by position,
supplies already. -/
def Repeats (index : Nat) (name : String) : Prop :=
  (∃ argument, call.keyword[index]? = some (name, argument)) ∧
    ((∃ earlier < index, ∃ argument, call.keyword[earlier]? = some (name, argument)) ∨
      ∃ position < call.positional.length, signature.FirstAt name position)

/-- The keyword at an index names no parameter. -/
def Undeclared (index : Nat) (name : String) : Prop :=
  (∃ argument, call.keyword[index]? = some (name, argument)) ∧
    ∀ parameter ∈ signature.parameters, parameter.name ≠ name

/-- A name is among the keywords. -/
def Names (name : String) : Prop := ∃ argument, (name, argument) ∈ call.keyword

/-- The parameter of this name at this position is supplied. -/
def Supplies (position : Nat) (name : String) : Prop :=
  position < call.positional.length ∨ call.Names name

/-- The parameter at a position is not supplied and defaults to nothing. -/
def Hole (name : String) (position : Nat) : Prop :=
  ∃ parameter, signature.parameters[position]? = some parameter ∧ parameter.name = name ∧
    ¬ call.Supplies position name ∧ parameter.default? = some Tree.absent

/-- A list holds exactly the holes before a position, in order. -/
structure Lists (holes : List (String × Nat)) (position : Nat) : Prop where
  ordered : holes.Pairwise fun hole later => hole.2 < later.2
  holds : ∀ hole : String × Nat,
    hole ∈ holes ↔ hole.2 < position ∧ call.Hole signature hole.1 hole.2

/-- What is wrong with the parameter at a position. -/
inductive Fault (position : Nat) : Error → Prop where
  /-- It must be supplied and is not. -/
  | missing {parameter : Parameter} (there : signature.parameters[position]? = some parameter)
      (unsupplied : ¬ call.Supplies position parameter.name)
      (mandatory : parameter.default? = none) : Fault position (.missingArgument parameter.name)
  /-- It is supplied by keyword, and there are holes before it. -/
  | afterHole {parameter : Parameter} {holes : List (String × Nat)}
      (there : signature.parameters[position]? = some parameter)
      (byKeyword : ¬ position < call.positional.length ∧ call.Names parameter.name)
      (listed : call.Lists signature holes position) (left : holes ≠ []) :
      Fault position (.argumentAfterHole parameter.name holes)

/-- The cause a call is refused with. Each constructor excludes what is reported before it. -/
inductive Refusal : Error → Prop where
  /-- The first keyword that repeats. -/
  | duplicate {index : Nat} {name : String} (repeated : call.Repeats signature index name)
      (first : ∀ earlier < index, ∀ other, ¬ call.Repeats signature earlier other) :
      Refusal (.duplicateArgument name)
  /-- More arguments than parameters. -/
  | tooMany (single : ∀ index name, ¬ call.Repeats signature index name)
      (beyond : signature.parameters.length < call.positional.length + call.keyword.length) :
      Refusal (.tooManyArguments (signature.parameters.map Parameter.name)
        (call.positional.length + call.keyword.length))
  /-- The first keyword that names no parameter. -/
  | unexpected (single : ∀ index name, ¬ call.Repeats signature index name)
      (within : call.positional.length + call.keyword.length ≤ signature.parameters.length)
      {index : Nat} {name : String} (unknown : call.Undeclared signature index name)
      (first : ∀ earlier < index, ∀ other, ¬ call.Undeclared signature earlier other) :
      Refusal (.unexpectedKeyword name)
  /-- The first parameter that has a fault. -/
  | faulty (single : ∀ index name, ¬ call.Repeats signature index name)
      (within : call.positional.length + call.keyword.length ≤ signature.parameters.length)
      (known : ∀ index name, ¬ call.Undeclared signature index name)
      {position : Nat} {cause : Error} (fault : call.Fault signature position cause)
      (first : ∀ earlier < position, ∀ other, ¬ call.Fault signature earlier other) :
      Refusal cause

/-- Nothing is wrong with a call. -/
structure Acceptable : Prop where
  single : ∀ index name, ¬ call.Repeats signature index name
  within : call.positional.length + call.keyword.length ≤ signature.parameters.length
  known : ∀ index name, ¬ call.Undeclared signature index name
  sound : ∀ position cause, ¬ call.Fault signature position cause

variable {signature call}

/-! ## The list of holes -/

/-- The holes before a position are one list only. -/
theorem Lists.unique {holes others : List (String × Nat)} {position : Nat}
    (listed : call.Lists signature holes position)
    (listed' : call.Lists signature others position) : holes = others := by
  have irreflexive : Std.Irrefl fun hole later : String × Nat => hole.2 < later.2 :=
    ⟨fun hole => Nat.lt_irrefl hole.2⟩
  have antisymmetric : Std.Antisymm fun hole later : String × Nat => hole.2 < later.2 :=
    ⟨fun hole later below above => absurd below (Nat.lt_asymm above)⟩
  exact List.Pairwise.eq_of_mem_iff listed.ordered listed'.ordered fun hole =>
    (listed.holds hole).trans (listed'.holds hole).symm

theorem lists_zero : call.Lists signature [] 0 :=
  ⟨.nil, fun hole => by simp⟩

/-- A parameter that is a hole comes after the holes before it. -/
theorem Lists.concat {holes : List (String × Nat)} {position : Nat} {name : String}
    (listed : call.Lists signature holes position) (hole : call.Hole signature name position) :
    call.Lists signature (holes ++ [(name, position)]) (position + 1) := by
  refine ⟨List.pairwise_append.mpr ⟨listed.ordered, List.pairwise_singleton _ _, ?_⟩, ?_⟩
  · intro earlier known last here
    rw [List.mem_singleton.mp here]
    exact ((listed.holds earlier).mp known).1
  · rintro ⟨other, place⟩
    rw [List.mem_append, List.mem_singleton, listed.holds, Nat.lt_succ_iff_lt_or_eq, or_and_right]
    refine or_congr_right ⟨?_, ?_⟩
    · intro same
      obtain ⟨rfl, rfl⟩ := Prod.mk.inj same
      exact ⟨rfl, hole⟩
    · rintro ⟨rfl, hole'⟩
      obtain ⟨parameter, there, rfl, -, -⟩ := hole
      obtain ⟨parameter', there', rfl, -, -⟩ := hole'
      rw [Option.some.inj (there.symm.trans there')]

/-- A parameter that is no hole leaves the list as it is. -/
theorem Lists.skip {holes : List (String × Nat)} {position : Nat}
    (listed : call.Lists signature holes position)
    (filled : ∀ name, ¬ call.Hole signature name position) :
    call.Lists signature holes (position + 1) := by
  refine ⟨listed.ordered, fun hole => ?_⟩
  rw [listed.holds, Nat.lt_succ_iff_lt_or_eq, or_and_right]
  refine (or_iff_left ?_).symm
  rintro ⟨rfl, hole'⟩
  exact filled _ hole'

/-! ## Faults of keywords -/

theorem suppliedTwice_iff {name : String} :
    call.suppliedTwice signature name = true ↔
      ∃ position < call.positional.length, signature.FirstAt name position := by
  rw [suppliedTwice]
  cases found : signature.position? name with
  | none => simp [← Signature.position?_eq_some_iff, found]
  | some position => simp [← Signature.position?_eq_some_iff, found]

/-- The names of the keywords before it tell whether a keyword repeats. -/
private theorem repeats_iff {before later : List (String × Tree)} {name : String} {argument : Tree}
    (all : call.keyword = before ++ (name, argument) :: later) :
    ((before.map Prod.fst).contains name || call.suppliedTwice signature name) = true ↔
      ∃ other, call.Repeats signature before.length other := by
  have here : call.keyword[before.length]? = some (name, argument) := by
    rw [all, List.getElem?_append_right (Nat.le_refl _), Nat.sub_self, List.getElem?_cons_zero]
  rw [Bool.or_eq_true, suppliedTwice_iff, List.contains_iff_mem, List.mem_map]
  constructor
  · rintro (⟨⟨other, given⟩, known, rfl⟩ | twice)
    · obtain ⟨earlier, inside, found⟩ := List.mem_iff_getElem.mp known
      refine ⟨_, ⟨argument, here⟩, .inl ⟨earlier, inside, given, ?_⟩⟩
      rw [all, List.getElem?_append_left inside, List.getElem?_eq_getElem inside, found]
    · exact ⟨name, ⟨argument, here⟩, .inr twice⟩
  · rintro ⟨other, ⟨given, there⟩, repeated⟩
    obtain ⟨rfl, -⟩ := Prod.mk.inj (Option.some.inj (here.symm.trans there))
    refine repeated.imp_left ?_
    rintro ⟨earlier, inside, given, found⟩
    rw [all, List.getElem?_append_left inside] at found
    exact ⟨_, List.mem_of_getElem? found, rfl⟩

/-- The search for a repeated keyword knows the names of the keywords before those still to be
searched. -/
private theorem reports_firstDuplicate? {before later : List (String × Tree)}
    (all : call.keyword = before ++ later) :
    Reports (call.Repeats signature) before.length
      (call.firstDuplicate? signature (before.map Prod.fst) later) := by
  induction later generalizing before with
  | nil =>
      rintro index beyond name ⟨⟨argument, there⟩, -⟩
      rw [all, List.append_nil, List.getElem?_eq_none beyond] at there
      cases there
  | cons entry later ih =>
      obtain ⟨name, argument⟩ := entry
      have rest := @ih (before ++ [(name, argument)]) (by rw [all, List.append_assoc]; rfl)
      rw [List.map_append, List.length_append, List.map_singleton, List.length_singleton] at rest
      rw [firstDuplicate?]
      by_cases seen : ∃ other, call.Repeats signature before.length other
      · rw [if_pos ((repeats_iff all).mpr seen)]
        obtain ⟨other, repeated⟩ := seen
        obtain ⟨⟨given, there⟩, -⟩ := id repeated
        rw [all, List.getElem?_append_right (Nat.le_refl _), Nat.sub_self,
          List.getElem?_cons_zero] at there
        obtain ⟨rfl, -⟩ := Prod.mk.inj (Option.some.inj there)
        exact .here repeated
      · rw [if_neg fun again => seen ((repeats_iff all).mp again)]
        exact .next (not_exists.mp seen) rest

/-- The first keyword that repeats. -/
theorem firstDuplicate?_reports :
    Reports (call.Repeats signature) 0 (call.firstDuplicate? signature [] call.keyword) :=
  @reports_firstDuplicate? signature call [] _ (List.nil_append call.keyword).symm

/-- The first keyword that names no parameter. -/
theorem firstUndeclared?_reports :
    Reports (call.Undeclared signature) 0 (call.firstUndeclared? signature) := by
  cases found : call.firstUndeclared? signature with
  | some name =>
      rw [firstUndeclared?, Option.map_eq_some_iff] at found
      obtain ⟨⟨_, argument⟩, found, rfl⟩ := found
      obtain ⟨unknown, index, inside, there, first⟩ := List.find?_eq_some_iff_getElem.mp found
      refine ⟨index, ⟨⟨argument, by rw [List.getElem?_eq_getElem inside, there]⟩,
        Signature.position?_eq_none_iff.mp (by simpa using unknown)⟩, ?_⟩
      rintro earlier - before other ⟨⟨given, there'⟩, unknown'⟩
      obtain ⟨inside', same⟩ := List.getElem?_eq_some_iff.mp there'
      have declared := first earlier before
      rw [same, Signature.position?_eq_none_iff.mpr unknown'] at declared
      simp at declared
  | none =>
      rintro index - name ⟨⟨argument, there⟩, unknown⟩
      rw [firstUndeclared?, Option.map_eq_none_iff, List.find?_eq_none] at found
      have declared := found _ (List.mem_of_getElem? there)
      rw [Signature.position?_eq_none_iff.mpr unknown] at declared
      simp at declared

/-! ## Faults of parameters -/

theorem keyword?_eq_none_iff {name : String} :
    call.keyword? name = none ↔ ¬ call.Names name := by
  rw [keyword?, Option.map_eq_none_iff, List.find?_eq_none, Names]
  constructor
  · rintro apart ⟨argument, given⟩
    exact apart _ given (beq_self_eq_true name)
  · rintro missing ⟨other, argument⟩ given same
    exact missing ⟨argument, eq_of_beq same ▸ given⟩

theorem names_of_keyword? {name : String} {argument : Tree}
    (given : call.keyword? name = some argument) : call.Names name := by
  by_contra missing
  rw [keyword?_eq_none_iff.mpr missing] at given
  cases given

section Place

variable {position : Nat} {parameter : Parameter}
  (there : signature.parameters[position]? = some parameter)

include there

/-- A parameter that is supplied is no hole. -/
theorem not_hole_of_supplied (supplied : call.Supplies position parameter.name) (name : String) :
    ¬ call.Hole signature name position := by
  rintro ⟨other, there', rfl, unsupplied, -⟩
  rw [Option.some.inj (there'.symm.trans there)] at unsupplied
  exact unsupplied supplied

/-- A parameter that defaults to something is no hole. -/
theorem not_hole_of_default {argument : Tree} (default : parameter.default? = some argument)
    (something : argument ≠ Tree.absent) (name : String) : ¬ call.Hole signature name position := by
  rintro ⟨other, there', -, -, default'⟩
  rw [Option.some.inj (there'.symm.trans there), default] at default'
  exact something (Option.some.inj default')

omit there in
/-- A parameter that is supplied by position has no fault. -/
theorem not_fault_of_position (inside : position < call.positional.length) (cause : Error) :
    ¬ call.Fault signature position cause := by
  intro fault
  cases fault with
  | missing there' unsupplied => exact unsupplied (.inl inside)
  | afterHole there' byKeyword => exact byKeyword.1 inside

/-- A parameter that is supplied by keyword has no fault without holes before it. -/
theorem not_fault_of_keyword (named : call.Names parameter.name)
    (listed : call.Lists signature [] position) (cause : Error) :
    ¬ call.Fault signature position cause := by
  intro fault
  cases fault with
  | missing there' unsupplied =>
      rw [Option.some.inj (there'.symm.trans there)] at unsupplied
      exact unsupplied (.inr named)
  | afterHole there' byKeyword listed' left => exact left (listed'.unique listed)

/-- A parameter with a default that is not supplied has no fault. -/
theorem not_fault_of_default {argument : Tree} (unsupplied : ¬ call.Supplies position parameter.name)
    (default : parameter.default? = some argument) (cause : Error) :
    ¬ call.Fault signature position cause := by
  intro fault
  cases fault with
  | missing there' _ mandatory =>
      rw [Option.some.inj (there'.symm.trans there), default] at mandatory
      cases mandatory
  | afterHole there' byKeyword =>
      rw [Option.some.inj (there'.symm.trans there)] at byKeyword
      exact unsupplied (.inr byKeyword.2)

end Place

/-- A fault of a parameter is reported with one cause only. -/
theorem Fault.unique {position : Nat} {cause other : Error}
    (fault : call.Fault signature position cause)
    (fault' : call.Fault signature position other) : cause = other := by
  cases fault with
  | missing there unsupplied mandatory =>
      cases fault' with
      | missing there' => rw [Option.some.inj (there.symm.trans there')]
      | afterHole there' byKeyword =>
          rw [Option.some.inj (there'.symm.trans there)] at byKeyword
          exact absurd (.inr byKeyword.2) unsupplied
  | afterHole there byKeyword listed left =>
      cases fault' with
      | missing there' unsupplied =>
          rw [Option.some.inj (there.symm.trans there')] at byKeyword
          exact absurd (.inr byKeyword.2) unsupplied
      | afterHole there' byKeyword' listed' =>
          rw [Option.some.inj (there.symm.trans there'), listed.unique listed']

end CallArguments

/-- The cause of a failure, if there is one. -/
def Result.cause? {α : Type} : Result α → Option Error
  | .error cause => some cause
  | .ok _ => none

@[simp] theorem Result.cause?_error {α : Type} (cause : Error) :
    Result.cause? (.error cause : Result α) = some cause := rfl

@[simp] theorem Result.cause?_ok {α : Type} (value : α) :
    Result.cause? (.ok value : Result α) = none := rfl

@[simp] theorem Result.cause?_map {α β : Type} (change : α → β) (result : Result α) :
    Result.cause? (result.map change) = Result.cause? result := by
  cases result <;> rfl

theorem Tree.isAbsent_iff {tree : Tree} : tree.isAbsent = true ↔ tree = Tree.absent := by
  cases tree with
  | leaf value => cases value <;> simp [Tree.isAbsent, Value.isNone, Tree.absent]
  | sequence items => simp [Tree.isAbsent, Tree.absent]
  | mapping entries => simp [Tree.isAbsent, Tree.absent]

namespace Binding

open CallArguments

variable {signature : Signature} {call : CallArguments}

/-- The walk over the parameters from a position on, with the holes before it: it reports the
first fault from there on. -/
private theorem collect_reports {before later : List Parameter} {holes : List (String × Nat)}
    (all : signature.parameters = before ++ later)
    (listed : call.Lists signature holes before.length) :
    Reports (call.Fault signature) before.length
      (collect call before.length holes later).cause? := by
  induction later generalizing before holes with
  | nil =>
      intro position beyond cause fault
      have none : signature.parameters[position]? = none := by
        rw [all, List.append_nil, List.getElem?_eq_none beyond]
      cases fault with
      | missing there => rw [none] at there; cases there
      | afterHole there => rw [none] at there; cases there
  | cons parameter later ih =>
      have there : signature.parameters[before.length]? = some parameter := by
        rw [all, List.getElem?_append_right (Nat.le_refl _), Nat.sub_self, List.getElem?_cons_zero]
      have go {holes : List (String × Nat)}
          (listed : call.Lists signature holes (before.length + 1))
          (sound : ∀ cause, ¬ call.Fault signature before.length cause) :
          Reports (call.Fault signature) before.length
            (collect call (before.length + 1) holes later).cause? := by
        have rest := @ih (before ++ [parameter]) holes (by rw [all, List.append_assoc]; rfl)
        rw [List.length_append, List.length_singleton] at rest
        exact .next sound (rest listed)
      rw [collect]
      split
      next argument given =>
        have inside : before.length < call.positional.length :=
          (List.getElem?_eq_some_iff.mp given).1
        rw [Result.cause?_map]
        exact go (listed.skip (not_hole_of_supplied there (.inl inside)))
          (not_fault_of_position inside)
      next absent =>
        have outside : ¬ before.length < call.positional.length :=
          Nat.not_lt.mpr (List.getElem?_eq_none_iff.mp absent)
        split
        next argument given =>
          have named : call.Names parameter.name := names_of_keyword? given
          split
          next empty =>
            obtain rfl := List.isEmpty_iff.mp empty
            rw [Result.cause?_map]
            exact go (listed.skip (not_hole_of_supplied there (.inr named)))
              (not_fault_of_keyword there named listed)
          next left =>
            exact .here (.afterHole there ⟨outside, named⟩ listed (by simpa using left))
        next unnamed =>
          have unsupplied : ¬ call.Supplies before.length parameter.name :=
            not_or.mpr ⟨outside, keyword?_eq_none_iff.mp unnamed⟩
          split
          next mandatory => exact .here (.missing there unsupplied mandatory)
          next argument default =>
            have sound := not_fault_of_default there unsupplied default
            split
            next nothing =>
              rw [Tree.isAbsent_iff.mp nothing] at default
              exact go (listed.concat ⟨parameter, there, rfl, unsupplied, default⟩) sound
            next something =>
              have kept := listed.skip (not_hole_of_default there default fun absent =>
                something (Tree.isAbsent_iff.mpr absent))
              split
              next empty => rw [Result.cause?_map]; exact go kept sound
              next left => exact go kept sound

/-- What the binder makes of a call. -/
theorem bind_outcome (signature : Signature) (call : CallArguments) :
    match bind signature call with
    | .error cause => call.Refusal signature cause
    | .ok _ => call.Acceptable signature := by
  have repeated := @firstDuplicate?_reports signature call
  have unknown := @firstUndeclared?_reports signature call
  have faults := @collect_reports signature call [] _ [] (List.nil_append signature.parameters).symm
    lists_zero
  rw [bind]
  cases firstRepeated : call.firstDuplicate? signature [] call.keyword with
  | some name =>
      rw [firstRepeated] at repeated
      obtain ⟨index, repeats, first⟩ := repeated
      exact .duplicate repeats fun earlier => first earlier (Nat.zero_le _)
  | none =>
      rw [firstRepeated] at repeated
      have single (index : Nat) := repeated index (Nat.zero_le _)
      by_cases beyond : signature.size < call.size
      · simp only [if_pos beyond]
        exact .tooMany single beyond
      · have within : call.size ≤ signature.size := Nat.not_lt.mp beyond
        simp only [if_neg beyond]
        cases firstUnknown : call.firstUndeclared? signature with
        | some name =>
            rw [firstUnknown] at unknown
            obtain ⟨index, undeclared, first⟩ := unknown
            exact .unexpected single within undeclared fun earlier =>
              first earlier (Nat.zero_le _)
        | none =>
            rw [firstUnknown] at unknown
            have known (index : Nat) := unknown index (Nat.zero_le _)
            cases collected : collect call 0 [] signature.parameters with
            | error cause =>
                rw [List.length_nil, collected] at faults
                obtain ⟨position, fault, first⟩ := faults
                exact .faulty single within known fault fun earlier =>
                  first earlier (Nat.zero_le _)
            | ok bound =>
                rw [List.length_nil, collected] at faults
                exact ⟨single, within, known, fun position => faults position (Nat.zero_le _)⟩

end Binding

namespace CallArguments

variable {signature : Signature} {call : CallArguments}

/-- A call is refused with one cause only. -/
theorem Refusal.unique {cause other : Error} (refused : call.Refusal signature cause)
    (refused' : call.Refusal signature other) : cause = other := by
  have sameKeyword {index : Nat} {name name' : String}
      (given : ∃ argument, call.keyword[index]? = some (name, argument))
      (given' : ∃ argument, call.keyword[index]? = some (name', argument)) : name = name' := by
    obtain ⟨argument, there⟩ := given
    obtain ⟨argument', there'⟩ := given'
    exact (Prod.mk.inj (Option.some.inj (there.symm.trans there'))).1
  cases refused with
  | duplicate repeated first =>
      cases refused' with
      | duplicate repeated' first' =>
          rw [Reports.first_unique (fun _ _ _ fault fault' => sameKeyword fault.1 fault'.1)
            repeated first repeated' first']
      | tooMany single | unexpected single | faulty single => exact absurd repeated (single _ _)
  | tooMany single beyond =>
      cases refused' with
      | duplicate repeated => exact absurd repeated (single _ _)
      | tooMany => rfl
      | unexpected _ within | faulty _ within => exact absurd beyond (Nat.not_lt.mpr within)
  | unexpected single within unknown first =>
      cases refused' with
      | duplicate repeated => exact absurd repeated (single _ _)
      | tooMany _ beyond => exact absurd beyond (Nat.not_lt.mpr within)
      | unexpected _ _ unknown' first' =>
          rw [Reports.first_unique (fun _ _ _ fault fault' => sameKeyword fault.1 fault'.1)
            unknown first unknown' first']
      | faulty _ _ known => exact absurd unknown (known _ _)
  | faulty single within known fault first =>
      cases refused' with
      | duplicate repeated => exact absurd repeated (single _ _)
      | tooMany _ beyond => exact absurd beyond (Nat.not_lt.mpr within)
      | unexpected _ _ unknown => exact absurd unknown (known _ _)
      | faulty _ _ _ fault' first' =>
          exact Reports.first_unique (fun _ _ _ fault fault' => fault.unique fault') fault first
            fault' first'

/-- A call with nothing wrong is not refused. -/
theorem Refusal.not_acceptable {cause : Error} (refused : call.Refusal signature cause) :
    ¬ call.Acceptable signature := by
  intro acceptable
  cases refused with
  | duplicate repeated => exact acceptable.single _ _ repeated
  | tooMany _ beyond => exact absurd beyond (Nat.not_lt.mpr acceptable.within)
  | unexpected _ _ unknown => exact acceptable.known _ _ unknown
  | faulty _ _ _ fault => exact acceptable.sound _ _ fault

end CallArguments

namespace Binding

/-- The binder refuses a call with exactly the cause that is due to it, and binds it exactly when
nothing is wrong with it. -/
theorem bind_error_iff_and_bind_ok_iff (signature : Signature) (call : CallArguments) :
    (∀ cause, bind signature call = .error cause ↔ call.Refusal signature cause) ∧
      ((∃ binding, bind signature call = .ok binding) ↔ call.Acceptable signature) := by
  have outcome := bind_outcome signature call
  cases bound : bind signature call with
  | error cause =>
      rw [bound] at outcome
      refine ⟨fun other => ⟨?_, fun refused => by rw [outcome.unique refused]⟩,
        nofun, fun acceptable => absurd acceptable outcome.not_acceptable⟩
      rintro ⟨⟩
      exact outcome
  | ok binding =>
      rw [bound] at outcome
      exact ⟨fun other => ⟨nofun, fun refused => absurd outcome refused.not_acceptable⟩,
        fun _ => outcome, fun _ => ⟨binding, rfl⟩⟩

/-- Every hole before the parameter is listed, and only the holes. -/
example :
    bind ⟨[⟨"a", some .absent⟩, ⟨"b", some (.leaf (.int 1))⟩, ⟨"c", some .absent⟩, ⟨"d", none⟩]⟩
        ⟨[], [("d", .leaf (.int 2))]⟩ =
      .error (.argumentAfterHole "d" [("a", 0), ("c", 2)]) := by
  rfl

end Binding

end Offload
