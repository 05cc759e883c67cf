/-
# Theory.DynamicScope -- a context variable over cooperative tasks

A program binds a context variable for the extent of a body, and gives the old value
back by its token when the body returns or raises.  Each task holds its own copy of the
variable, and a task that it spawns starts with the value of that moment.  The tasks of
the machine interleave at every step.

Read lexically, the same program needs no variable: a query stands under the innermost
`within` around it.

* `tasks` -- the machine, with one frame for each open body.
* `Thread` -- the calls of one thread of control, under lexical scope.
* `always_lexical` -- in every interleaving the calls of a task, after those of the tasks
  that spawned it, are a thread of the program that its request started.
* `always_restored` -- outside every body a task has the value it started with.
-/
import Lcp.Theory.Calls
import Lcp.Theory.Machine

namespace Lcp.Theory.DynamicScope

open Calls

set_option autoImplicit false

/-! ## Programs -/

/-- How a body ends. -/
inductive Exit (X : Type) where
  | returned
  | raised (exc : X)
deriving DecidableEq

/-- A coroutine over a context variable of values `V`: it asks for `Q` and goes on with the
answer, an `R`. -/
inductive Program (V Q R X : Type) where
  | done (exit : Exit X)
  | ask (query : Q) (next : R → Program V Q R X)
  /-- Set the variable; `try` the body; `finally` reset it, and go on with the body's exit. -/
  | within (value : V) (body : Program V Q R X) (next : Exit X → Program V Q R X)
  | spawn (child next : Program V Q R X)

/-- A query with the value of the variable when it was asked, and the moment that answered. -/
structure Call (V Q E : Type) where
  binding : Option V
  query : Q
  moment : E

section Programs

variable {V Q R X : Type}

/-- The program binds nothing. -/
def Program.Plain : Program V Q R X → Prop
  | .done _ => True
  | .ask _ next => ∀ reply, (next reply).Plain
  | .within .. => False
  | .spawn child next => child.Plain ∧ next.Plain

variable {E : Type} (answer : E → Option V → Q → R)

/-- The calls of a program that ends, one after the other; those of its children are apart. -/
inductive Runs : Option V → Program V Q R X → List (Call V Q E) → Exit X → Prop
  | done {c : Option V} (exit : Exit X) : Runs c (.done exit) [] exit
  | ask {c : Option V} {query : Q} {next : R → Program V Q R X} {calls : List (Call V Q E)}
      {exit : Exit X} (moment : E) (rest : Runs c (next (answer moment c query)) calls exit) :
      Runs c (.ask query next) (⟨c, query, moment⟩ :: calls) exit
  | within {c : Option V} {value : V} {body : Program V Q R X} {next : Exit X → Program V Q R X}
      {first later : List (Call V Q E)} {inner exit : Exit X}
      (inside : Runs (some value) body first inner) (rest : Runs c (next inner) later exit) :
      Runs c (.within value body next) (first ++ later) exit
  | spawn {c : Option V} {child next : Program V Q R X} {calls : List (Call V Q E)}
      {exit : Exit X} (rest : Runs c next calls exit) : Runs c (.spawn child next) calls exit

/-- The calls so far of one thread of control: of the program itself, or up to a `spawn` of
the program and from there on of the child. -/
inductive Thread : Option V → Program V Q R X → List (Call V Q E) → Prop
  | start {c : Option V} {program : Program V Q R X} : Thread c program []
  | ask {c : Option V} {query : Q} {next : R → Program V Q R X} {calls : List (Call V Q E)}
      (moment : E) (rest : Thread c (next (answer moment c query)) calls) :
      Thread c (.ask query next) (⟨c, query, moment⟩ :: calls)
  | body {c : Option V} {value : V} {body : Program V Q R X} {next : Exit X → Program V Q R X}
      {calls : List (Call V Q E)} (inside : Thread (some value) body calls) :
      Thread c (.within value body next) calls
  | after {c : Option V} {value : V} {body : Program V Q R X} {next : Exit X → Program V Q R X}
      {first later : List (Call V Q E)} {inner : Exit X}
      (inside : Runs answer (some value) body first inner) (rest : Thread c (next inner) later) :
      Thread c (.within value body next) (first ++ later)
  | child {c : Option V} {child next : Program V Q R X} {calls : List (Call V Q E)}
      (rest : Thread c child calls) : Thread c (.spawn child next) calls
  | parent {c : Option V} {child next : Program V Q R X} {calls : List (Call V Q E)}
      (rest : Thread c next calls) : Thread c (.spawn child next) calls

variable {answer} {c : Option V} {program : Program V Q R X} {calls : List (Call V Q E)}

theorem Runs.thread {exit : Exit X} (runs : Runs answer c program calls exit) :
    Thread answer c program calls := by
  induction runs with
  | done exit => exact .start
  | ask moment rest ih => exact .ask moment ih
  | within inside rest insideIh restIh => exact .after inside restIh
  | spawn rest ih => exact .parent ih

theorem Thread.done {exit : Exit X} (thread : Thread answer c (.done exit) calls) : calls = [] := by
  cases thread
  rfl

/-- A body with nothing after it. -/
theorem Thread.within_done {value : V} {next : Exit X → Exit X}
    (thread : Thread answer c (.within value program fun exit => .done (next exit)) calls) :
    Thread answer (some value) program calls := by
  cases thread with
  | start => exact .start
  | body inside => exact inside
  | after inside rest =>
      obtain rfl := rest.done
      rw [List.append_nil]
      exact inside.thread

/-- A body with nothing in it. -/
theorem Thread.within_empty {value : V} {exit : Exit X} {next : Exit X → Program V Q R X}
    (thread : Thread answer c (.within value (.done exit) next) calls) :
    Thread answer c (next exit) calls := by
  cases thread with
  | start => exact .start
  | body inside =>
      obtain rfl := inside.done
      exact .start
  | after inside rest =>
      cases inside
      exact rest

/-- What binds nothing runs under the value it finds. -/
theorem Thread.binding (thread : Thread answer c program calls) (plain : program.Plain)
    {call : Call V Q E} (member : call ∈ calls) : call.binding = c := by
  induction thread with
  | start => cases member
  | ask moment rest ih =>
      rcases List.mem_cons.1 member with rfl | later
      · rfl
      · exact ih (plain _) later
  | body inside ih => exact plain.elim
  | after inside rest ih => exact plain.elim
  | child rest ih => exact ih plain.1 member
  | parent rest ih => exact ih plain.2 member

end Programs

/-! ## The machine -/

section Machine

variable {V Q R X E ι : Type}

/-- A body that a task is inside of. -/
structure Frame (V Q R X : Type) where
  /-- What `reset` restores. -/
  token : Option V
  next : Exit X → Program V Q R X

structure Task (V Q R X E ι : Type) where
  request : ι
  /-- The value the task started with. -/
  inherited : Option V
  context : Option V
  code : Program V Q R X
  frames : List (Frame V Q R X)
  /-- The calls of the task, after those of the tasks that spawned it. -/
  past : List (Call V Q E)

inductive Action (E ι : Type) where
  | start (request : ι)
  | resume (i : Nat) (moment : E)

variable (program : ι → Program V Q R X) (answer : E → Option V → Q → R)

namespace Task

/-- A task that a request starts; no caller has bound anything. -/
def start (request : ι) : Task V Q R X E ι where
  request
  inherited := none
  context := none
  code := program request
  frames := []
  past := []

/-- One step of a task, with the task it spawns; none when it is over. -/
def resume (task : Task V Q R X E ι) (moment : E) :
    Option (Task V Q R X E ι × Option (Task V Q R X E ι)) :=
  match task.code with
  | .ask query next =>
      some ({ task with
        code := next (answer moment task.context query)
        past := task.past ++ [⟨task.context, query, moment⟩] }, none)
  | .within value body next =>
      some ({ task with
        context := some value
        code := body
        frames := ⟨task.context, next⟩ :: task.frames }, none)
  | .spawn child next =>
      some ({ task with code := next },
        some { task with inherited := task.context, code := child, frames := [] })
  | .done exit =>
      match task.frames with
      | [] => none
      | frame :: rest =>
          some ({ task with
            context := frame.token
            code := frame.next exit
            frames := rest }, none)

end Task

/-- One step of one task, or the start of a request. -/
def step (running : List (Task V Q R X E ι)) :
    Action E ι → Option (List (Task V Q R X E ι))
  | .start request => some (running ++ [Task.start program request])
  | .resume i moment =>
      running[i]?.bind fun task => (task.resume answer moment).map fun (moved, spawned) =>
        running.set i moved ++ spawned.toList

/-- The tasks of an event loop. -/
def tasks : Machine (List (Task V Q R X E ι)) (Action E ι) where
  step := step program answer

variable {program answer} {P : Task V Q R X E ι → Prop}

variable (program answer) in
/-- **The induction over an interleaving**: what holds of a task that starts, and stays with a
task and comes to its child when the task takes a step, holds of every task. -/
theorem always_forall (starts : ∀ request, P (Task.start program request))
    (keeps : ∀ task moment moved spawned, P task →
      task.resume answer moment = some (moved, spawned) → P moved ∧ ∀ child ∈ spawned, P child)
    (as : List (Action E ι)) :
    (tasks program answer).Always (fun running => ∀ task ∈ running, P task) [] as := by
  refine ⟨nofun,
    Machine.along_of_step (I := fun running => ∀ task ∈ running, P task) ?_ (by simp) as⟩
  intro running a next all stepped
  suffices kept : ∀ task ∈ next, P task from ⟨kept, kept⟩
  cases a with
  | start request =>
      obtain rfl := Option.some.inj stepped
      exact forall_joined all (starts request)
  | resume i moment =>
      obtain ⟨task, is, moves⟩ := Option.bind_eq_some_iff.1 stepped
      obtain ⟨⟨moved, spawned⟩, taken, rfl⟩ := Option.map_eq_some_iff.1 moves
      obtain ⟨ofMoved, ofSpawned⟩ := keeps task moment moved spawned
        (all task (List.mem_of_getElem? is)) taken
      intro other member
      rcases List.mem_append.1 member with old | new
      · exact forall_moved all ofMoved other old
      · exact ofSpawned other (Option.mem_toList.1 new)

/-! ## Lexical scope -/

variable (answer) in
/-- The calls that may still come: of the code at hand, and when it ends of the frames. -/
def Follows : Option V → Program V Q R X → List (Frame V Q R X) → List (Call V Q E) → Prop
  | c, code, [], calls => Thread answer c code calls
  | c, code, frame :: rest, calls =>
      Thread answer c code calls ∨
        ∃ first exit later, calls = first ++ later ∧ Runs answer c code first exit ∧
          Follows frame.token (frame.next exit) rest later

/-- Some calls before the rest of the code. -/
theorem Follows.before {c : Option V} {code rest : Program V Q R X}
    {first : List (Call V Q E)} {frames : List (Frame V Q R X)}
    (thread : ∀ calls, Thread answer c rest calls → Thread answer c code (first ++ calls))
    (runs : ∀ calls exit, Runs answer c rest calls exit →
      Runs answer c code (first ++ calls) exit)
    {calls : List (Call V Q E)} (follows : Follows answer c rest frames calls) :
    Follows answer c code frames (first ++ calls) := by
  cases frames with
  | nil => exact thread calls follows
  | cons frame outer =>
      rcases follows with inside | ⟨start, exit, later, rfl, ends, after⟩
      · exact .inl (thread calls inside)
      · refine .inr ⟨first ++ start, exit, later, ?_, runs start exit ends, after⟩
        rw [List.append_assoc]

/-- The frame of a body stands for what comes after it. -/
theorem Follows.entered {c : Option V} {value : V} {body : Program V Q R X}
    {next : Exit X → Program V Q R X} {frames : List (Frame V Q R X)} {calls : List (Call V Q E)}
    (follows : Follows answer (some value) body (⟨c, next⟩ :: frames) calls) :
    Follows answer c (.within value body next) frames calls := by
  rcases follows with inside | ⟨first, inner, later, rfl, ends, after⟩
  · cases frames with
    | nil => exact Thread.body inside
    | cons frame outer => exact .inl (.body inside)
  · exact after.before (fun calls thread => .after ends thread)
      fun calls exit runs => .within ends runs

/-- The frame on top takes over when the code ends. -/
theorem Follows.leaving {c : Option V} {exit : Exit X} {frame : Frame V Q R X}
    {rest : List (Frame V Q R X)} {calls : List (Call V Q E)}
    (follows : Follows answer frame.token (frame.next exit) rest calls) :
    Follows answer c (.done exit) (frame :: rest) calls :=
  .inr ⟨[], exit, calls, rfl, .done exit, follows⟩

variable (program answer) in
/-- What a task has called, with what it may still call, is a thread of its request. -/
def Task.Lexical (task : Task V Q R X E ι) : Prop :=
  ∀ calls, Follows answer task.context task.code task.frames calls →
    Thread answer none (program task.request) (task.past ++ calls)

theorem Task.Lexical.past {task : Task V Q R X E ι} (lexical : task.Lexical program answer) :
    Thread answer none (program task.request) task.past := by
  have nothing : Follows answer task.context task.code task.frames [] := by
    cases task.frames with
    | nil => exact Thread.start
    | cons frame rest => exact .inl .start
  simpa using lexical [] nothing

theorem Task.Lexical.resume {task moved : Task V Q R X E ι} {moment : E}
    {spawned : Option (Task V Q R X E ι)} (lexical : task.Lexical program answer)
    (taken : task.resume answer moment = some (moved, spawned)) :
    moved.Lexical program answer ∧ ∀ child ∈ spawned, child.Lexical program answer := by
  obtain ⟨request, inherited, context, code, frames, past⟩ := task
  cases code with
  | ask query next =>
      obtain ⟨rfl, rfl⟩ := Prod.mk.inj (Option.some.inj taken)
      refine ⟨fun calls follows => ?_, by simp⟩
      have asked : Follows answer context (.ask query next) frames
          ([⟨context, query, moment⟩] ++ calls) :=
        follows.before (fun calls thread => .ask moment thread)
          fun calls exit runs => .ask moment runs
      simpa using lexical _ asked
  | within value body next =>
      obtain ⟨rfl, rfl⟩ := Prod.mk.inj (Option.some.inj taken)
      exact ⟨fun calls follows => lexical calls follows.entered, by simp⟩
  | spawn child next =>
      obtain ⟨rfl, rfl⟩ := Prod.mk.inj (Option.some.inj taken)
      refine ⟨fun calls follows => lexical calls ?_, ?_⟩
      · have parent : Follows answer context (.spawn child next) frames ([] ++ calls) :=
          follows.before (fun calls thread => .parent thread) fun calls exit runs => .spawn runs
        exact parent
      · rintro _ ⟨⟩
        intro calls thread
        have follows : Follows answer context (.spawn child next) frames calls := by
          cases frames with
          | nil => exact Thread.child thread
          | cons frame rest => exact .inl (.child thread)
        exact lexical calls follows
  | done exit =>
      cases frames with
      | nil => cases taken
      | cons frame rest =>
          obtain ⟨rfl, rfl⟩ := Prod.mk.inj (Option.some.inj taken)
          exact ⟨fun calls follows => lexical calls follows.leaving, by simp⟩

variable (program answer) in
/-- **A context variable with tokens is lexical scope**, in every interleaving. -/
theorem always_lexical (as : List (Action E ι)) :
    (tasks program answer).Always (fun running => ∀ task ∈ running,
      Thread answer none (program task.request) task.past) [] as := by
  have always := always_forall program answer (P := Task.Lexical program answer)
    (fun request calls thread => thread)
    (fun task moment moved spawned lexical taken => lexical.resume taken) as
  exact always.mono fun running all task member => (all task member).past

/-! ## Restoration -/

/-- The value below all the frames. -/
def bottom : Option V → List (Frame V Q R X) → Option V
  | c, [] => c
  | _, frame :: rest => bottom frame.token rest

theorem restored_of_resume {task moved : Task V Q R X E ι} {moment : E}
    {spawned : Option (Task V Q R X E ι)}
    (restored : bottom task.context task.frames = task.inherited)
    (taken : task.resume answer moment = some (moved, spawned)) :
    bottom moved.context moved.frames = moved.inherited ∧
      ∀ child ∈ spawned, bottom child.context child.frames = child.inherited := by
  obtain ⟨request, inherited, context, code, frames, past⟩ := task
  cases code with
  | ask query next =>
      obtain ⟨rfl, rfl⟩ := Prod.mk.inj (Option.some.inj taken)
      exact ⟨restored, by simp⟩
  | within value body next =>
      obtain ⟨rfl, rfl⟩ := Prod.mk.inj (Option.some.inj taken)
      exact ⟨restored, by simp⟩
  | spawn child next =>
      obtain ⟨rfl, rfl⟩ := Prod.mk.inj (Option.some.inj taken)
      refine ⟨restored, ?_⟩
      rintro _ ⟨⟩
      rfl
  | done exit =>
      cases frames with
      | nil => cases taken
      | cons frame rest =>
          obtain ⟨rfl, rfl⟩ := Prod.mk.inj (Option.some.inj taken)
          exact ⟨restored, by simp⟩

variable (program answer) in
/-- Outside every body a task has the value it started with. -/
theorem always_restored (as : List (Action E ι)) :
    (tasks program answer).Always (fun running => ∀ task ∈ running,
      task.frames = [] → task.context = task.inherited) [] as := by
  have always := always_forall program answer
    (P := fun task => bottom task.context task.frames = task.inherited) (fun request => rfl)
    (fun task moment moved spawned restored taken => restored_of_resume restored taken) as
  refine always.mono fun running all task member outside => ?_
  have restored := all task member
  rw [outside] at restored
  exact restored

end Machine

end Lcp.Theory.DynamicScope
