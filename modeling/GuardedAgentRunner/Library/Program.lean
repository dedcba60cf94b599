/-
This file is a small logic of interactive programs. A program is a tree of calls to
its environment, each with a continuation for every answer; a protocol says which
calls are allowed in a state and how an answered call moves the state. A program is
safe in a state for a postcondition when every call it makes along every path of
answers is allowed and every result it ends with satisfies the postcondition. The
rules follow the constructors, also for programs that may stop with an error.
-/

import Mathlib.Logic.Basic

/-- A program over calls `Effect` answered in `Answer`. -/
inductive Program (Effect : Type) (Answer : Effect → Type) (Result : Type) : Type
  | done (result : Result)
  | call (effect : Effect) (next : Answer effect → Program Effect Answer Result)

namespace Program

variable {Effect : Type} {Answer : Effect → Type} {First Second Result : Type}

/-- Run one program and continue with its result. -/
def andThen : Program Effect Answer First → (First → Program Effect Answer Second) →
    Program Effect Answer Second
  | .done result, rest => rest result
  | .call effect next, rest => .call effect fun answer => (next answer).andThen rest

instance : Monad (Program Effect Answer) where
  pure := .done
  bind := andThen

/-- One call. -/
def ask (effect : Effect) : Program Effect Answer (Answer effect) := .call effect .done

/-- Make the outcome of a program that may stop with an error a value. -/
def reify {Failure : Type} (program : ExceptT Failure (Program Effect Answer) First) :
    ExceptT Failure (Program Effect Answer) (Except Failure First) :=
  ExceptT.lift program.run

/-- Look until a look settles the result; when the last tick has passed, settle for what the
last look left. -/
def poll {Monadic : Type → Type} [Monad Monadic] (look : Monadic (First ⊕ Result))
    (settle : First → Monadic Result) : Nat → Monadic Result
  | 0 => do
    match ← look with
    | .inl last => settle last
    | .inr result => pure result
  | ticks + 1 => do
    match ← look with
    | .inl _ => poll look settle ticks
    | .inr result => pure result

/-- Every call the program can make satisfies the condition. -/
def Uses (condition : Effect → Prop) : Program Effect Answer Result → Prop
  | .done _ => True
  | .call effect next => condition effect ∧ ∀ answer, (next answer).Uses condition

variable {condition : Effect → Prop} {first : Program Effect Answer First}
  {rest : First → Program Effect Answer Second} {Failure Last : Type}
  {attempt : ExceptT Failure (Program Effect Answer) First}
  {goesOn : First → ExceptT Failure (Program Effect Answer) Second}

theorem uses_andThen (uses : first.Uses condition)
    (continues : ∀ result, (rest result).Uses condition) :
    (first.andThen rest).Uses condition := by
  induction first with
  | done result => exact continues result
  | call effect next hypothesis =>
    exact ⟨uses.1, fun answer => hypothesis answer (uses.2 answer)⟩

theorem uses_bind (uses : attempt.run.Uses condition)
    (continues : ∀ result, (goesOn result).run.Uses condition) :
    (attempt >>= goesOn).run.Uses condition := by
  refine uses_andThen uses fun outcome => ?_
  cases outcome with
  | ok result => exact continues result
  | error failure => exact trivial

/-! ### Ended runs -/

/-- The program ends with the result when its calls are answered as the trace says. -/
inductive Ends : Program Effect Answer Result → List ((effect : Effect) × Answer effect) →
    Result → Prop
  | done (result : Result) : Ends (.done result) [] result
  | call {effect : Effect} {next : Answer effect → Program Effect Answer Result}
      {answer : Answer effect} {trace : List ((effect : Effect) × Answer effect)}
      {result : Result} (ends : Ends (next answer) trace result) :
      Ends (.call effect next) (⟨effect, answer⟩ :: trace) result

variable {trace early late : List ((effect : Effect) × Answer effect)} {result : Result}
  {look : ExceptT Failure (Program Effect Answer) (Last ⊕ Result)}
  {settle : Last → ExceptT Failure (Program Effect Answer) Result}

theorem Ends.of_done {value : Result}
    (ends : Ends (.done value : Program Effect Answer Result) trace result) :
    trace = [] ∧ result = value := by
  cases ends
  exact ⟨rfl, rfl⟩

theorem Ends.of_call {effect : Effect} {next : Answer effect → Program Effect Answer Result}
    (ends : Ends (.call effect next) trace result) :
    ∃ answer rest, trace = ⟨effect, answer⟩ :: rest ∧ Ends (next answer) rest result := by
  cases ends with
  | call ends => exact ⟨_, _, rfl, ends⟩

theorem Ends.of_andThen {result : Second} (ends : Ends (first.andThen rest) trace result) :
    ∃ early late value, trace = early ++ late ∧ Ends first early value ∧
      Ends (rest value) late result := by
  induction first generalizing trace with
  | done value => exact ⟨[], trace, value, rfl, .done value, ends⟩
  | call effect next hypothesis =>
    obtain ⟨answer, remaining, rfl, continues⟩ := Ends.of_call ends
    obtain ⟨early, late, value, rfl, first, second⟩ := hypothesis answer continues
    exact ⟨⟨effect, answer⟩ :: early, late, value, rfl, .call first, second⟩

theorem Ends.of_bind {result : Second} (ends : Ends (attempt >>= goesOn).run trace (.ok result)) :
    ∃ early late value, trace = early ++ late ∧ Ends attempt.run early (.ok value) ∧
      Ends (goesOn value).run late (.ok result) := by
  obtain ⟨early, late, outcome, rfl, first, second⟩ := Ends.of_andThen ends
  cases outcome with
  | ok value => exact ⟨early, late, value, rfl, first, second⟩
  | error failure => exact nomatch (Ends.of_done second).2

theorem Ends.to_andThen {value : First} {result : Second}
    (ends : Ends first early value) (continues : Ends (rest value) late result) :
    Ends (first.andThen rest) (early ++ late) result := by
  induction ends with
  | done value => exact continues
  | call ends hypothesis => exact .call (hypothesis continues)

theorem Ends.to_poll (ticks : Nat) (looked : Ends look.run trace (.ok (.inr result))) :
    Ends (poll look settle ticks).run trace (.ok result) := by
  rw [← List.append_nil trace]
  cases ticks with
  | zero => exact looked.to_andThen (.done _)
  | succ ticks => exact looked.to_andThen (.done _)

theorem Ends.of_poll {ticks : Nat} (ends : Ends (poll look settle ticks).run trace (.ok result)) :
    (∃ early late, trace = early ++ late ∧ Ends look.run late (.ok (.inr result))) ∨
      ∃ last late, Ends (settle last).run late (.ok result) := by
  induction ticks generalizing trace with
  | zero =>
    obtain ⟨early, late, outcome, rfl, looked, ends⟩ := Ends.of_bind ends
    cases outcome with
    | inl last => exact Or.inr ⟨last, late, ends⟩
    | inr value =>
      obtain ⟨rfl, same⟩ := Ends.of_done ends
      obtain rfl := Except.ok.inj same
      exact Or.inl ⟨[], early, List.append_nil _, looked⟩
  | succ ticks hypothesis =>
    obtain ⟨early, late, outcome, rfl, looked, ends⟩ := Ends.of_bind ends
    cases outcome with
    | inl last =>
      rcases hypothesis ends with ⟨before, final, rfl, looked⟩ | settled
      · exact Or.inl ⟨early ++ before, final, (List.append_assoc ..).symm, looked⟩
      · exact Or.inr settled
    | inr value =>
      obtain ⟨rfl, same⟩ := Ends.of_done ends
      obtain rfl := Except.ok.inj same
      exact Or.inl ⟨[], early, List.append_nil _, looked⟩

end Program

/-- Which calls are allowed in a state, and how an answered call moves the state. -/
structure Protocol (Effect : Type) (Answer : Effect → Type) (State : Type) where
  allowed : State → Effect → Prop
  moves : State → (effect : Effect) → Answer effect → State → Prop

namespace Protocol

variable {Effect : Type} {Answer : Effect → Type} {State First Second Result Failure : Type}

/-- Every call of the program is allowed and every result satisfies the postcondition. -/
def Safe (protocol : Protocol Effect Answer State) (state : State) :
    Program Effect Answer Result → (State → Result → Prop) → Prop
  | .done result, post => post state result
  | .call effect next, post =>
    protocol.allowed state effect ∧
      ∀ answer later, protocol.moves state effect answer later →
        protocol.Safe later (next answer) post

variable {protocol : Protocol Effect Answer State} {state : State}
  {program : Program Effect Answer Result} {goal other : State → Result → Prop}

theorem safe_bind {first : Program Effect Answer First}
    {rest : First → Program Effect Answer Second} {post : State → Second → Prop} :
    protocol.Safe state (first >>= rest) post ↔
      protocol.Safe state first fun later result => protocol.Safe later (rest result) post := by
  induction first generalizing state with
  | done result => exact Iff.rfl
  | call effect next hypothesis =>
    refine and_congr Iff.rfl (forall_congr' fun answer => forall_congr' fun later => ?_)
    exact imp_congr Iff.rfl (hypothesis answer)

section

variable (safe : protocol.Safe state program goal)

include safe

theorem Safe.weaken
    (implies : ∀ later result, goal later result → other later result) :
    protocol.Safe state program other := by
  induction program generalizing state with
  | done result => exact implies state result safe
  | call effect next hypothesis =>
    exact ⟨safe.1, fun answer later moved => hypothesis answer (safe.2 answer later moved)⟩

/-- A program safe under one protocol is safe under every protocol that it simulates: related
states allow the same calls, and every move of the one is matched by a move of the other. -/
theorem Safe.simulate {Image : Type} {other : Protocol Effect Answer Image}
    {related : State → Image → Prop} {image : Image}
    (start : related state image)
    (step : ∀ state image effect, related state image → protocol.allowed state effect →
      other.allowed image effect ∧ ∀ answer later, other.moves image effect answer later →
        ∃ next, protocol.moves state effect answer next ∧ related next later) :
    other.Safe image program fun later result =>
      ∃ final, related final later ∧ goal final result := by
  induction program generalizing state image with
  | done result => exact ⟨state, start, safe⟩
  | call effect next hypothesis =>
    obtain ⟨allowed, matched⟩ := step state image effect start safe.1
    refine ⟨allowed, fun answer later moved => ?_⟩
    obtain ⟨middle, moves, follows⟩ := matched answer later moved
    exact hypothesis answer (safe.2 answer middle moves) follows

/-- A program safe under one protocol is safe under every protocol that allows more and moves
no further. -/
theorem Safe.relax {other : Protocol Effect Answer State}
    (allows : ∀ state effect, protocol.allowed state effect → other.allowed state effect)
    (moves : ∀ state effect answer later, protocol.allowed state effect →
      other.moves state effect answer later → protocol.moves state effect answer later) :
    other.Safe state program goal := by
  have simulated : other.Safe state program fun later result =>
      ∃ final, final = later ∧ goal final result := by
    refine safe.simulate rfl ?_
    rintro state _ effect rfl allowed
    refine ⟨allows state effect allowed, fun answer later moved => ?_⟩
    exact ⟨later, moves state effect answer later allowed moved, rfl⟩
  refine simulated.weaken ?_
  rintro later result ⟨_, rfl, holds⟩
  exact holds

/-- A preorder that every allowed move respects relates the state a safe program starts in to
every state it ends in. -/
theorem Safe.remember {relation : State → State → Prop}
    (reflexive : ∀ state, relation state state)
    (transitive : ∀ {first second third}, relation first second → relation second third →
      relation first third)
    (moved : ∀ state effect answer later, protocol.allowed state effect →
      protocol.moves state effect answer later → relation state later) :
    protocol.Safe state program fun later result => relation state later ∧ goal later result := by
  induction program generalizing state with
  | done result => exact ⟨reflexive state, safe⟩
  | call effect next hypothesis =>
    refine ⟨safe.1, fun answer later moves => ?_⟩
    refine (hypothesis answer (safe.2 answer later moves)).weaken ?_
    rintro final result ⟨related, holds⟩
    exact ⟨transitive (moved state effect answer later safe.1 moves) related, holds⟩

end

/-- A program whose calls are all allowed and leave the state as it is stays in it. -/
theorem Safe.of_uses {condition : Effect → Prop} (uses : program.Uses condition)
    (allowed : ∀ effect, condition effect → protocol.allowed state effect)
    (still : ∀ effect answer later, condition effect →
      protocol.moves state effect answer later → later = state) :
    protocol.Safe state program fun later _ => later = state := by
  induction program with
  | done result => exact rfl
  | call effect next hypothesis =>
    refine ⟨allowed effect uses.1, fun answer later moved => ?_⟩
    rw [still effect answer later uses.1 moved]
    exact hypothesis answer (uses.2 answer)

theorem safe_of_allowed (allowed : ∀ state effect, protocol.allowed state effect)
    (program : Program Effect Answer Result) : protocol.Safe state program fun _ _ => True := by
  induction program generalizing state with
  | done result => trivial
  | call effect next hypothesis =>
    exact ⟨allowed state effect, fun answer later _ => hypothesis answer⟩

/-! ### Programs that may stop with an error -/

/-- The safety of a program that may stop with an error. -/
def Holds (protocol : Protocol Effect Answer State) (state : State)
    (program : ExceptT Failure (Program Effect Answer) Result)
    (post : State → Except Failure Result → Prop) : Prop :=
  protocol.Safe state program.run post

/-- How a postcondition continues after a part of a program. -/
def Continues (protocol : Protocol Effect Answer State)
    (rest : First → ExceptT Failure (Program Effect Answer) Second)
    (post : State → Except Failure Second → Prop) (later : State) :
    Except Failure First → Prop
  | .ok result => protocol.Holds later (rest result) post
  | .error failure => post later (.error failure)

variable {post : State → Except Failure Result → Prop}
  {program : ExceptT Failure (Program Effect Answer) Result}
  {first : ExceptT Failure (Program Effect Answer) First}
  {rest : First → ExceptT Failure (Program Effect Answer) Second}

theorem holds_bind {post : State → Except Failure Second → Prop} :
    protocol.Holds state (first >>= rest) post ↔
      protocol.Holds state first (protocol.Continues rest post) := by
  refine Iff.trans safe_bind ?_
  have same : ∀ later outcome, protocol.Safe later (ExceptT.bindCont rest outcome) post ↔
      protocol.Continues rest post later outcome := by
    intro later outcome
    cases outcome <;> exact Iff.rfl
  exact ⟨fun safe => safe.weaken fun later outcome => (same later outcome).mp,
    fun safe => safe.weaken fun later outcome => (same later outcome).mpr⟩

theorem Holds.weaken {other : State → Except Failure Result → Prop}
    (holds : protocol.Holds state program post)
    (implies : ∀ later outcome, post later outcome → other later outcome) :
    protocol.Holds state program other := Safe.weaken holds implies

/-- Sequencing: what the first part establishes carries the rest. -/
theorem Holds.bind {middle : State → Except Failure First → Prop}
    {post : State → Except Failure Second → Prop} (holds : protocol.Holds state first middle)
    (continues : ∀ later result, middle later (.ok result) →
      protocol.Holds later (rest result) post)
    (stops : ∀ later failure, middle later (.error failure) → post later (.error failure)) :
    protocol.Holds state (first >>= rest) post := by
  refine holds_bind.mpr (holds.weaken fun later outcome reached => ?_)
  cases outcome with
  | ok result => exact continues later result reached
  | error failure => exact stops later failure reached

theorem holds_reify {post : State → Except Failure (Except Failure Result) → Prop} :
    protocol.Holds state (Program.reify program) post ↔
      protocol.Holds state program fun later outcome => post later (.ok outcome) := by
  refine Iff.trans safe_bind ?_
  exact Iff.rfl

/-- A waiting loop: every look starts in a state with the invariant and leaves one. -/
theorem holds_poll (invariant : State → Prop)
    {look : ExceptT Failure (Program Effect Answer) (First ⊕ Result)}
    {settle : First → ExceptT Failure (Program Effect Answer) Result}
    (looks : ∀ state, invariant state → protocol.Holds state look fun later outcome =>
      match outcome with
      | .ok (.inl last) => invariant later ∧ protocol.Holds later (settle last) post
      | .ok (.inr result) => post later (.ok result)
      | .error failure => post later (.error failure))
    (ticks : Nat) (holds : invariant state) :
    protocol.Holds state (Program.poll look settle ticks) post := by
  induction ticks generalizing state with
  | zero =>
    refine (looks state holds).bind (fun later outcome reached => ?_) fun _ _ => id
    cases outcome with
    | inl last => exact reached.2
    | inr result => exact reached
  | succ ticks hypothesis =>
    refine (looks state holds).bind (fun later outcome reached => ?_) fun _ _ => id
    cases outcome with
    | inl last => exact hypothesis reached.1
    | inr result => exact reached

/-! ### Programs whose errors need nothing -/

/-- The safety of a program for a postcondition on its successful results only. -/
def Ensures (protocol : Protocol Effect Answer State) (state : State)
    (program : ExceptT Failure (Program Effect Answer) Result) (post : State → Result → Prop) :
    Prop :=
  protocol.Holds state program fun later outcome => ∀ result, outcome = .ok result →
    post later result

theorem ensures_pure {result : Result} :
    protocol.Ensures state (pure result : ExceptT Failure (Program Effect Answer) Result) goal ↔
      goal state result :=
  ⟨fun ensures => ensures result rfl, fun holds _ same => Except.ok.inj same ▸ holds⟩

theorem ensures_throw {failure : Failure} :
    protocol.Ensures state
      (throw failure : ExceptT Failure (Program Effect Answer) Result) goal :=
  fun _ impossible => nomatch impossible

theorem ensures_lift {value : Except Failure Result} :
    protocol.Ensures state (liftM value : ExceptT Failure (Program Effect Answer) Result) goal ↔
      ∀ result, value = .ok result → goal state result := Iff.rfl

theorem Ensures.weaken (ensures : protocol.Ensures state program goal)
    (implies : ∀ later result, goal later result → other later result) :
    protocol.Ensures state program other :=
  Holds.weaken ensures fun later _ holds result same => implies later result (holds result same)

variable {middle : State → First → Prop} {final : State → Second → Prop}
  {value : Except Failure First}

theorem Ensures.bind (ensures : protocol.Ensures state first middle)
    (continues : ∀ later result, middle later result → protocol.Ensures later (rest result) final) :
    protocol.Ensures state (first >>= rest) final :=
  Holds.bind ensures (fun later result reached => continues later result (reached result rfl))
    fun _ _ _ _ impossible => nomatch impossible

theorem Ensures.next {reached : First → State}
    (ensures : protocol.Ensures state first fun later result => later = reached result)
    (continues : ∀ result, protocol.Ensures (reached result) (rest result) final) :
    protocol.Ensures state (first >>= rest) final :=
  ensures.bind fun _ result same => same ▸ continues result

theorem ensures_lift_bind
    (continues : ∀ result, value = .ok result → protocol.Ensures state (rest result) final) :
    protocol.Ensures state
      ((liftM value : ExceptT Failure (Program Effect Answer) First) >>= rest) final := by
  have present : protocol.Ensures state
      (liftM value : ExceptT Failure (Program Effect Answer) First)
      fun later result => later = state ∧ value = .ok result :=
    ensures_lift.mpr fun _ same => ⟨rfl, same⟩
  refine present.bind fun later result reached => ?_
  rw [reached.1]
  exact continues result reached.2

theorem ensures_reify (holds : protocol.Holds state program post) :
    protocol.Ensures state (Program.reify program) post := by
  refine holds_reify.mpr (holds.weaken fun later outcome reached result same => ?_)
  cases same
  exact reached

/-! ### Programs whose errors are accounted for -/

/-- The safety of a program for a postcondition on its successful results and a condition on the
states it stops in with an error. -/
def Yields (protocol : Protocol Effect Answer State) (stop : State → Prop) (state : State)
    (program : ExceptT Failure (Program Effect Answer) Result) (post : State → Result → Prop) :
    Prop :=
  protocol.Holds state program fun later outcome =>
    match outcome with
    | .ok result => post later result
    | .error _ => stop later

variable {stop : State → Prop}

theorem Yields.weaken (yields : protocol.Yields stop state program goal)
    (implies : ∀ later result, goal later result → other later result) :
    protocol.Yields stop state program other := by
  refine Holds.weaken yields fun later outcome reached => ?_
  cases outcome with
  | ok result => exact implies later result reached
  | error failure => exact reached

theorem Yields.bind (yields : protocol.Yields stop state first middle)
    (continues : ∀ later result, middle later result →
      protocol.Yields stop later (rest result) final) :
    protocol.Yields stop state (first >>= rest) final :=
  Holds.bind yields continues fun _ _ => id

theorem yields_lift_bind (stops : ∀ failure, value = .error failure → stop state)
    (continues : ∀ result, value = .ok result → protocol.Yields stop state (rest result) final) :
    protocol.Yields stop state
      ((liftM value : ExceptT Failure (Program Effect Answer) First) >>= rest) final := by
  cases value with
  | ok result => exact continues result rfl
  | error failure => exact stops failure rfl

theorem yields_reify (holds : protocol.Holds state program post) :
    protocol.Yields stop state (Program.reify program) post :=
  holds_reify.mpr holds

end Protocol
