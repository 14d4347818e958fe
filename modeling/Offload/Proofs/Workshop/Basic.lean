/-
# Workshops

A workshop is a session of a journaled platform with any number of wrappers, each of any subject.
Its moves are what an application can do, in any order and number: make a wrapper, give a wrapper a
task, read a model through a handle. Between two moves the world may become any other, so whatever
is asked of the platform may fail or succeed at any point, and the models may be shared, held,
changed and hooked up in any way. A workshop keeps its history: what each wrapper was made with,
and for each move its outcome and the entries that it left.
-/

import Offload.Proofs.Executor.Work

namespace Offload

open Attempt Session

/-- What happened in a workshop. Wrappers are numbered in the order in which they were made. -/
inductive Event where
  /-- A wrapper was made, to be compiled with an optimizer. -/
  | made (optimizer : Option Descriptor)
  /-- A wrapper was given a task. -/
  | worked (number : Nat) (task : Task) (outcome : Result (Option Output)) (entries : List Entry)
  /-- A model was read through a handle. -/
  | read (entries : List Entry)

/-- An entry, and the wrapper whose task left it, if it was one. -/
structure Logged where
  number : Option Nat
  entry : Entry

/-- The entries that an event left. -/
def Event.logged : Event → List Logged
  | made _ => []
  | worked number _ _ entries => entries.map (Logged.mk (some number))
  | read entries => entries.map (Logged.mk none)

/-- The entries of a history. -/
def Event.log (history : List Event) : List Logged := history.flatMap Event.logged

/-- A session with wrappers, and what happened so far. -/
structure Workshop (P : Platform) where
  session : Session P.journaled
  wrappers : List (Executor P.journaled)
  history : List Event

namespace Workshop

variable {P : Platform} {α : Type}

/-- What an application can do in a workshop. -/
inductive Move (P : Platform) where
  /-- Make a wrapper, to be compiled with an optimizer. -/
  | wrap (subject : Subject P) (options : Options) (training : Bool)
      (optimizer : Option Descriptor)
  /-- Give a wrapper a task. -/
  | work (number : Nat) (task : Task)
  /-- Read the parameters of a model through a handle. -/
  | parameters (handle : Handle)
  /-- Run a model through a handle. -/
  | forward (handle : Handle) (inputs : List Tree)
  /-- Refresh the host weights of a model through a handle. -/
  | sync (handle : Handle)
  /-- Something happened to the world and to the models. -/
  | elapse (world : P.World) (models : Store (ModelCell P.journaled))

/-- A workshop without wrappers, where nothing happened yet. -/
def start (world : P.World) : Workshop P := ⟨.start (.start world), [], []⟩

/-- The entries that came to a session with another one. -/
def entriesSince (before reached : Session P.journaled) : List Entry :=
  reached.world.entries.drop before.world.entries.length

/-- Make a wrapper. -/
def wrap (subject : Subject P) (options : Options) (training : Bool)
    (optimizer : Option Descriptor) (workshop : Workshop P) : Workshop P :=
  match (Executor.make subject.journaled options training optimizer).perform workshop.session with
  | (.ok wrapper, session) =>
      ⟨session, workshop.wrappers ++ [wrapper], workshop.history ++ [.made optimizer]⟩
  | (.error _, session) => { workshop with session := session }

/-- Give a wrapper a task, if it was made. -/
def work (number : Nat) (task : Task) (workshop : Workshop P) : Workshop P :=
  match workshop.wrappers[number]? with
  | none => workshop
  | some wrapper =>
      let (outcome, reached) := (Executor.runTask task).perform ⟨wrapper, workshop.session⟩
      { session := reached.session
        wrappers := workshop.wrappers.set number reached.executor
        history := workshop.history ++
          [.worked number task outcome (entriesSince workshop.session reached.session)] }

/-- Read a model. -/
def read (step : Attempt (Session P.journaled) α) (workshop : Workshop P) : Workshop P :=
  let session := (step.perform workshop.session).2
  { workshop with
    session := session
    history := workshop.history ++ [.read (entriesSince workshop.session session)] }

/-- The world and the models are others now. -/
def elapse (world : P.World) (models : Store (ModelCell P.journaled)) (workshop : Workshop P) :
    Workshop P :=
  { workshop with
    session :=
      { workshop.session with
        world := { workshop.session.world with world := world }
        models := models } }

/-- Make a move. What fails leaves what it has reached. -/
def step (workshop : Workshop P) : Move P → Workshop P
  | .wrap subject options training optimizer => workshop.wrap subject options training optimizer
  | .work number task => workshop.work number task
  | .parameters handle => workshop.read (Session.parameters handle)
  | .forward handle inputs => workshop.read (Session.forward handle inputs)
  | .sync handle => workshop.read (Session.resolve handle)
  | .elapse world models => workshop.elapse world models

/-- Make some moves one after the other. -/
def run (workshop : Workshop P) (moves : List (Move P)) : Workshop P := moves.foldl step workshop

end Workshop

end Offload
