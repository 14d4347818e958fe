/-
# By position or by keyword

Whether a call binds, and to what, depends on which argument each parameter is supplied with and
not on how it is supplied. So the last argument by position may as well be given under the name of
its parameter, and keywords in any order.

Both are instances of one comparison: calls that supply every declared parameter with the same
argument leave the same holes, so that the second is bound like the first as soon as its keywords
repeat nothing, are not too many and are all known. The walk over the parameters is not compared
step by step, since it takes different branches in the two calls.
-/

import Offload.Proofs.Call.Placement

namespace Offload

namespace CallArguments

variable (signature : Signature)

/-- Two calls supply every parameter with the same argument, or both do not supply it. -/
def Agree (call other : CallArguments) : Prop :=
  ∀ (position : Nat) (parameter : Parameter), signature.parameters[position]? = some parameter →
    call.argument? position parameter.name = other.argument? position parameter.name

variable {signature} {call other : CallArguments}

/-! ## Calls that supply the same -/

namespace Agree

theorem symm (agree : Agree signature call other) : Agree signature other call :=
  fun position parameter there => (agree position parameter there).symm

theorem hole (agree : Agree signature call other) {name : String} {position : Nat}
    (hole : call.Hole signature name position) : other.Hole signature name position := by
  obtain ⟨parameter, there, rfl, unsupplied, default⟩ := hole
  refine ⟨parameter, there, rfl, ?_, default⟩
  rwa [supplies_iff, ← agree position parameter there, ← supplies_iff]

/-- Parameters supplied with the same arguments are filled with the same. -/
theorem fills (agree : Agree signature call other) {bound : List (String × Tree)}
    (fills : call.Fills signature 0 bound) : other.Fills signature 0 bound := by
  constructor
  · intro index entry here
    obtain ⟨parameter, there, name, filled, solid⟩ := fills.entry index entry here
    refine ⟨parameter, there, name, ?_, fun name hole => solid name (agree.symm.hole hole)⟩
    rwa [filling?, ← agree _ parameter there]
  · exact fills.stop.imp_right fun empty => empty.imp fun _ hole => agree.hole hole

/-- If one call is acceptable, nothing is wrong with the parameters of the other. -/
theorem sound (agree : Agree signature call other) (acceptable : call.Acceptable signature)
    (position : Nat) (cause : Error) : ¬ other.Fault signature position cause := by
  have supplied {parameter : Parameter}
      (there : signature.parameters[position]? = some parameter) :
      call.Supplies position parameter.name ↔ other.Supplies position parameter.name := by
    rw [supplies_iff, supplies_iff, agree position parameter there]
  intro fault
  cases fault with
  | missing there unsupplied mandatory =>
      rw [← supplied there] at unsupplied
      exact acceptable.sound position _ (.missing there unsupplied mandatory)
  | @afterHole parameter holes there byKeyword listed left =>
      obtain ⟨⟨name, place⟩, known⟩ := List.exists_mem_of_ne_nil holes left
      obtain ⟨before, hole⟩ := (listed.holds (name, place)).mp known
      exact acceptable.unsupplied_after (agree.symm.hole hole) before there
        ((supplied there).mpr (.inr byKeyword.2))

end Agree

/-! ## What is checked of the keywords -/

/-- Keywords repeat nothing exactly if they have different names, none of which belongs to a
parameter that is supplied by position. -/
theorem single_iff : (∀ index name, ¬ call.Repeats signature index name) ↔
    (call.keyword.map Prod.fst).Nodup ∧ ∀ name, call.Names name →
      ∀ position < call.positional.length, ¬ signature.FirstAt name position := by
  constructor
  · intro single
    refine ⟨nodup_of_single single, ?_⟩
    rintro name ⟨argument, given⟩ position inside first
    obtain ⟨index, there⟩ := List.mem_iff_getElem?.mp given
    exact single index name ⟨⟨argument, there⟩, .inr ⟨position, inside, first⟩⟩
  · rintro ⟨distinct, apart⟩ index name ⟨⟨argument, there⟩, repeated⟩
    rcases repeated with ⟨earlier, before, argument', there'⟩ | ⟨position, inside, first⟩
    · have inside : index < (call.keyword.map Prod.fst).length := by
        rw [List.length_map]
        exact (List.getElem?_eq_some_iff.mp there).1
      refine List.nodup_iff_getElem?_ne_getElem?.mp distinct earlier index before inside ?_
      rw [List.getElem?_map, List.getElem?_map, there, there', Option.map_some, Option.map_some]
    · exact apart name ⟨argument, List.mem_of_getElem? there⟩ position inside first

theorem known_iff : (∀ index name, ¬ call.Undeclared signature index name) ↔
    ∀ name, call.Names name → ∃ parameter ∈ signature.parameters, parameter.name = name := by
  constructor
  · rintro known name ⟨argument, given⟩
    obtain ⟨index, there⟩ := List.mem_iff_getElem?.mp given
    by_contra undeclared
    exact known index name ⟨⟨argument, there⟩, fun parameter declared same =>
      undeclared ⟨parameter, declared, same⟩⟩
  · rintro known index name ⟨⟨argument, there⟩, undeclared⟩
    obtain ⟨parameter, declared, same⟩ := known name ⟨argument, List.mem_of_getElem? there⟩
    exact undeclared parameter declared same

end CallArguments

namespace Binding

open CallArguments

variable {signature : Signature}

/-- A call that supplies the same as one that binds, and whose keywords are in order, binds to the
same. -/
theorem bind_of_agree {call other : CallArguments} {binding : Binding}
    (bound : bind signature call = .ok binding) (agree : Agree signature call other)
    (single : ∀ index name, ¬ other.Repeats signature index name)
    (within : other.positional.length + other.keyword.length ≤ signature.parameters.length)
    (known : ∀ index name, ¬ other.Undeclared signature index name) :
    bind signature other = .ok binding := by
  obtain ⟨acceptable, entries, fills, rfl⟩ := fills_of_bind bound
  have accepted : other.Acceptable signature :=
    ⟨single, within, known, agree.sound acceptable⟩
  cases outcome : bind signature other with
  | error cause =>
      have refused := bind_outcome signature other
      rw [outcome] at refused
      exact absurd accepted refused.not_acceptable
  | ok binding =>
      obtain ⟨-, entries', fills', rfl⟩ := fills_of_bind outcome
      rw [(agree.fills fills).unique fills']

/-- The order of the keywords makes no difference to a call that binds. -/
theorem bind_of_perm {arguments : List Tree} {keyword keyword' : List (String × Tree)}
    {binding : Binding} (perm : keyword.Perm keyword')
    (bound : bind signature ⟨arguments, keyword⟩ = .ok binding) :
    bind signature ⟨arguments, keyword'⟩ = .ok binding := by
  obtain ⟨acceptable, -⟩ := fills_of_bind bound
  obtain ⟨distinct, apart⟩ := single_iff.mp acceptable.single
  have distinct' : (keyword'.map Prod.fst).Nodup := (perm.map Prod.fst).nodup_iff.mp distinct
  have names (name : String) (named : CallArguments.Names ⟨arguments, keyword'⟩ name) :
      CallArguments.Names ⟨arguments, keyword⟩ name := by
    obtain ⟨argument, given⟩ := named
    exact ⟨argument, perm.mem_iff.mpr given⟩
  refine bind_of_agree bound ?_
    (single_iff.mpr ⟨distinct', fun name named => apart name (names name named)⟩)
    (perm.length_eq ▸ acceptable.within)
    (known_iff.mpr fun name named => known_iff.mp acceptable.known name (names name named))
  intro position parameter there
  have same : CallArguments.keyword? ⟨arguments, keyword⟩ parameter.name =
      CallArguments.keyword? ⟨arguments, keyword'⟩ parameter.name := by
    refine Option.ext fun argument => ?_
    rw [keyword?_eq_some_iff distinct, keyword?_eq_some_iff distinct']
    exact perm.mem_iff
  rw [argument?, argument?, same]

section Moved

variable {arguments : List Tree} {argument : Tree} {keyword : List (String × Tree)}
  {parameter : Parameter} {binding : Binding}

/-- An argument supplies the next parameter alike by position and under a name that is not yet
taken. -/
theorem agree_moved (distinct : signature.names.Nodup)
    (next : signature.parameters[arguments.length]? = some parameter)
    (fresh : parameter.name ∉ keyword.map Prod.fst) :
    Agree signature ⟨arguments ++ [argument], keyword⟩
      ⟨arguments, keyword ++ [(parameter.name, argument)]⟩ := by
  intro position other there
  have unnamed : keyword.find? (fun entry => entry.1 == parameter.name) = none := by
    rw [List.find?_eq_none]
    intro entry given same
    exact fresh (List.mem_map.mpr ⟨entry, given, eq_of_beq same⟩)
  simp only [argument?, keyword?, List.find?_append]
  rcases Nat.lt_trichotomy position arguments.length with inside | rfl | beyond
  · rw [List.getElem?_append_left inside, List.getElem?_eq_getElem inside, Option.some_or,
      Option.some_or]
  · obtain rfl := Option.some.inj (next.symm.trans there)
    rw [List.getElem?_concat_length, List.getElem?_eq_none (Nat.le_refl _), unnamed]
    simp
  · have apart : parameter.name ≠ other.name := by
      intro same
      exact (Signature.firstAt_of_nodup distinct there).2 _ beyond parameter next same
    have beyond' : (arguments ++ [argument]).length ≤ position := by
      rwa [List.length_append, List.length_singleton]
    rw [List.getElem?_eq_none (Nat.le_of_lt beyond), List.getElem?_eq_none beyond']
    simp [apart]

/-- The last argument by position may be given under the name of its parameter. -/
theorem bind_by_keyword (distinct : signature.names.Nodup)
    (next : signature.parameters[arguments.length]? = some parameter)
    (bound : bind signature ⟨arguments ++ [argument], keyword⟩ = .ok binding) :
    bind signature ⟨arguments, keyword ++ [(parameter.name, argument)]⟩ = .ok binding := by
  obtain ⟨acceptable, -⟩ := fills_of_bind bound
  obtain ⟨unrepeated, apart⟩ := single_iff.mp acceptable.single
  have first := Signature.firstAt_of_nodup distinct next
  have fresh : parameter.name ∉ keyword.map Prod.fst := by
    intro taken
    obtain ⟨⟨_, given⟩, there, rfl⟩ := List.mem_map.mp taken
    exact apart _ ⟨given, there⟩ arguments.length (by simp) first
  refine bind_of_agree bound (agree_moved distinct next fresh)
    (single_iff.mpr ⟨?_, ?_⟩) ?_ (known_iff.mpr ?_)
  · rw [List.map_append, List.map_singleton, ← List.concat_eq_append]
    exact unrepeated.concat fresh
  · rintro name ⟨given, there⟩ position inside first'
    rcases List.mem_append.mp there with old | new
    · exact apart name ⟨given, old⟩ position (by simpa using Nat.lt_succ_of_lt inside) first'
    · obtain ⟨rfl, -⟩ := Prod.mk.inj (List.mem_singleton.mp new)
      obtain ⟨⟨other, there', same⟩, -⟩ := first'
      exact first.2 position inside other there' same
  · have within := acceptable.within
    simp only [List.length_append, List.length_singleton] at within ⊢
    omega
  · rintro name ⟨given, there⟩
    rcases List.mem_append.mp there with old | new
    · exact known_iff.mp acceptable.known name ⟨given, old⟩
    · obtain ⟨rfl, -⟩ := Prod.mk.inj (List.mem_singleton.mp new)
      exact ⟨parameter, List.mem_of_getElem? next, rfl⟩

/-- An argument under the name of the next parameter may be given by position. -/
theorem bind_by_position (distinct : signature.names.Nodup)
    (next : signature.parameters[arguments.length]? = some parameter)
    (bound : bind signature ⟨arguments, keyword ++ [(parameter.name, argument)]⟩ = .ok binding) :
    bind signature ⟨arguments ++ [argument], keyword⟩ = .ok binding := by
  obtain ⟨acceptable, -⟩ := fills_of_bind bound
  obtain ⟨unrepeated, apart⟩ := single_iff.mp acceptable.single
  rw [List.map_append, List.map_singleton, ← List.concat_eq_append, List.nodup_concat] at unrepeated
  obtain ⟨fresh, unrepeated⟩ := unrepeated
  refine bind_of_agree bound (agree_moved distinct next fresh).symm
    (single_iff.mpr ⟨unrepeated, ?_⟩) ?_ (known_iff.mpr ?_)
  · rintro name ⟨given, there⟩ position inside first
    rw [List.length_append, List.length_singleton, Nat.lt_succ_iff_lt_or_eq] at inside
    rcases inside with before | rfl
    · exact apart name ⟨given, List.mem_append_left _ there⟩ position before first
    · obtain ⟨⟨other, there', rfl⟩, -⟩ := first
      obtain rfl := Option.some.inj (next.symm.trans there')
      exact fresh (List.mem_map.mpr ⟨(parameter.name, given), there, rfl⟩)
  · have within := acceptable.within
    simp only [List.length_append, List.length_singleton] at within ⊢
    omega
  · rintro name ⟨given, there⟩
    exact known_iff.mp acceptable.known name ⟨given, List.mem_append_left _ there⟩

end Moved

/-- If no two parameters have one name, the last argument by position may as well be given under
the name of its parameter, among the other keywords in any order: either call binds exactly if the
other does, and to the same. The order of keywords makes no difference either way. -/
theorem bind_position_iff_keyword (distinct : signature.names.Nodup) :
    (∀ (arguments : List Tree) (argument : Tree) (keyword keyword' : List (String × Tree))
      (parameter : Parameter) (binding : Binding),
      signature.parameters[arguments.length]? = some parameter →
        keyword'.Perm (keyword ++ [(parameter.name, argument)]) →
          (bind signature ⟨arguments ++ [argument], keyword⟩ = .ok binding ↔
            bind signature ⟨arguments, keyword'⟩ = .ok binding)) ∧
      ∀ (arguments : List Tree) (keyword keyword' : List (String × Tree)) (binding : Binding),
        keyword'.Perm keyword → (bind signature ⟨arguments, keyword⟩ = .ok binding ↔
          bind signature ⟨arguments, keyword'⟩ = .ok binding) := by
  constructor
  · intro arguments argument keyword keyword' parameter binding next perm
    constructor
    · intro bound
      exact bind_of_perm perm.symm (bind_by_keyword distinct next bound)
    · intro bound
      exact bind_by_position distinct next (bind_of_perm perm bound)
  · intro arguments keyword keyword' binding perm
    exact ⟨bind_of_perm perm.symm, bind_of_perm perm⟩

/-- A call of the signature with gaps whose second argument is given by name, after the others. -/
def gappedKeywords : List (String × Tree) :=
  [("d", .leaf (.int 4)), ("c", .leaf (.int 3)), ("b", .leaf (.int 2))]

/-- The argument that fills the second parameter may be moved out of the keywords. -/
theorem gapped_keyword_moved :
    gappedSignature.names.Nodup ∧
      gappedKeywords.Perm ([("c", .leaf (.int 3)), ("d", .leaf (.int 4))] ++
        [("b", .leaf (.int 2))]) ∧
      (bind gappedSignature ⟨[.leaf (.int 1)], gappedKeywords⟩).isOk = true ∧
      ∀ binding, bind gappedSignature ⟨[.leaf (.int 1), .leaf (.int 2)],
          [("c", .leaf (.int 3)), ("d", .leaf (.int 4))]⟩ = .ok binding ↔
        bind gappedSignature ⟨[.leaf (.int 1)], gappedKeywords⟩ = .ok binding := by
  have distinct : gappedSignature.names.Nodup := by decide
  have perm : gappedKeywords.Perm ([("c", .leaf (.int 3)), ("d", .leaf (.int 4))] ++
      [("b", .leaf (.int 2))]) := .swap _ _ _
  refine ⟨distinct, perm, rfl, fun binding => ?_⟩
  exact (bind_position_iff_keyword distinct).1 [.leaf (.int 1)] (.leaf (.int 2))
    [("c", .leaf (.int 3)), ("d", .leaf (.int 4))] gappedKeywords
    ⟨"b", some (.leaf (.int 7))⟩ binding rfl perm

end Binding

end Offload
