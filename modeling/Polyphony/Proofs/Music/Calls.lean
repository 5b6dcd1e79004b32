import Polyphony.Journal.Entry
import Polyphony.Proofs.Music.Tasks

/-!
# The calls of a fold

Handlers that note every call with its answer show what a fold does. The nodes of a piece are gone
through in postorder, with one call for each, until a call raises a fault or a number stands in the
place of a node; and the calls nest as the nodes do, each with the answers of those below.
-/

namespace Polyphony

variable {α β γ : Type}

namespace Music

/-- The nodes of a piece: those of its parts from left to right, then the piece itself. -/
def postorder : Music α → List (Music α)
  | prim primitive => [prim primitive]
  | seq left right => left.postorder ++ right.postorder ++ [seq left right]
  | par left right => left.postorder ++ right.postorder ++ [par left right]
  | modify control body => body.postorder ++ [modify control body]
  | stray number => [stray number]

theorem length_postorder (piece : Music α) : piece.postorder.length = piece.nodes := by
  induction piece with
  | prim primitive => rfl
  | seq left right ihleft ihright | par left right ihleft ihright =>
    simp only [postorder, List.length_append, List.length_singleton, ihleft, ihright, nodes]
    omega
  | modify control body ih =>
    rw [postorder, List.length_append, List.length_singleton, ih, nodes, Nat.add_comm]
  | stray number => rfl

end Music

/-- A call of a handler. -/
inductive Call (α β : Type) where
  /-- With a leaf. -/
  | prim (primitive : Primitive α)
  /-- With the results of the parts of a line. -/
  | seq (left right : β)
  /-- With the results of two pieces together. -/
  | par (left right : β)
  /-- With a control and the result of the piece under it. -/
  | modify (control : Control) (body : β)
deriving DecidableEq

/-- The call is one for the node: to the handler of its kind, with its leaf or its control. -/
inductive Call.For : Call α β → Music α → Prop where
  /-- For a leaf. -/
  | prim {primitive : Primitive α} : For (.prim primitive) (.prim primitive)
  /-- For a line. -/
  | seq {l r : β} {left right : Music α} : For (.seq l r) (.seq left right)
  /-- For two pieces together. -/
  | par {l r : β} {left right : Music α} : For (.par l r) (.par left right)
  /-- For a piece under a control. -/
  | modify {control : Control} {b : β} {body : Music α} :
      For (.modify control b) (.modify control body)

/-- A call with its answer. -/
abbrev Noted (α β : Type) := Call α β × Except Fault β

/-- The notes of folding a piece, and how it ends: each handler is called after the parts of its
node have been folded, with their results, and a fault ends the fold where it is raised. -/
inductive Folded : Music α → List (Noted α β) → Except Fault β → Prop where
  /-- A leaf is handled. -/
  | prim {primitive : Primitive α} {answer : Except Fault β} :
      Folded (.prim primitive) [(.prim primitive, answer)] answer
  /-- The parts of a line have results. -/
  | seq {left right : Music α} {ls rs : List (Noted α β)} {l r : β} {answer : Except Fault β}
      (hleft : Folded left ls (.ok l)) (hright : Folded right rs (.ok r)) :
      Folded (.seq left right) (ls ++ rs ++ [(.seq l r, answer)]) answer
  /-- A fault on the left of a line leaves out the right. -/
  | seqLeft {left right : Music α} {ls : List (Noted α β)} {fault : Fault}
      (hleft : Folded left ls (.error fault)) : Folded (.seq left right) ls (.error fault)
  /-- A fault on the right of a line. -/
  | seqRight {left right : Music α} {ls rs : List (Noted α β)} {l : β} {fault : Fault}
      (hleft : Folded left ls (.ok l)) (hright : Folded right rs (.error fault)) :
      Folded (.seq left right) (ls ++ rs) (.error fault)
  /-- Two pieces together have results. -/
  | par {left right : Music α} {ls rs : List (Noted α β)} {l r : β} {answer : Except Fault β}
      (hleft : Folded left ls (.ok l)) (hright : Folded right rs (.ok r)) :
      Folded (.par left right) (ls ++ rs ++ [(.par l r, answer)]) answer
  /-- A fault on the left of two pieces together leaves out the right. -/
  | parLeft {left right : Music α} {ls : List (Noted α β)} {fault : Fault}
      (hleft : Folded left ls (.error fault)) : Folded (.par left right) ls (.error fault)
  /-- A fault on the right of two pieces together. -/
  | parRight {left right : Music α} {ls rs : List (Noted α β)} {l : β} {fault : Fault}
      (hleft : Folded left ls (.ok l)) (hright : Folded right rs (.error fault)) :
      Folded (.par left right) (ls ++ rs) (.error fault)
  /-- The piece under a control has a result. -/
  | modify {control : Control} {body : Music α} {bs : List (Noted α β)} {b : β}
      {answer : Except Fault β} (hbody : Folded body bs (.ok b)) :
      Folded (.modify control body) (bs ++ [(.modify control b, answer)]) answer
  /-- A fault under a control. -/
  | modifyBody {control : Control} {body : Music α} {bs : List (Noted α β)} {fault : Fault}
      (hbody : Folded body bs (.error fault)) : Folded (.modify control body) bs (.error fault)
  /-- A number in the place of a piece is reported without a call. -/
  | stray {number : Int} : Folded (.stray number) [] (.error (.strayPiece number))

/-- The notes of going through nodes in their order, one call for each, up to the first fault: that
of a call, or that of a number in the place of a node. -/
inductive Called : List (Music α) → List (Noted α β) → Option Fault → Prop where
  /-- There is no node left. -/
  | nil : Called [] [] none
  /-- The call for the next node is answered. -/
  | answered {node : Music α} {nodes : List (Music α)} {call : Call α β} {b : β}
      {calls : List (Noted α β)} {fault : Option Fault} (hcall : call.For node)
      (hrest : Called nodes calls fault) : Called (node :: nodes) ((call, .ok b) :: calls) fault
  /-- The call for the next node raises a fault. -/
  | raised {node : Music α} {nodes : List (Music α)} {call : Call α β} {fault : Fault}
      (hcall : call.For node) : Called (node :: nodes) [(call, .error fault)] (some fault)
  /-- A number stands in the place of the next node. -/
  | stray {number : Int} {nodes : List (Music α)} :
      Called (.stray number :: nodes) [] (some (.strayPiece number))

/-- The fault that a computation ended with. -/
def fault? : Except Fault γ → Option Fault
  | .ok _ => none
  | .error fault => some fault

namespace Called

variable {nodes nodes' : List (Music α)} {calls calls' : List (Noted α β)}

/-- What goes through nodes without a fault may be followed by more nodes. -/
theorem append {fault : Option Fault} (hcalled : Called nodes calls none)
    (hcalled' : Called nodes' calls' fault) : Called (nodes ++ nodes') (calls ++ calls') fault := by
  generalize hnone : (none : Option Fault) = ended at hcalled
  induction hcalled with
  | nil => exact hcalled'
  | answered hcall _ ih => exact .answered hcall (ih hnone)
  | raised _ => cases hnone
  | stray => cases hnone

/-- After a fault it does not matter which nodes follow. -/
theorem append_nodes {fault : Fault} (hcalled : Called nodes calls (some fault))
    (nodes' : List (Music α)) : Called (nodes ++ nodes') calls (some fault) := by
  generalize hsome : some fault = ended at hcalled
  induction hcalled with
  | nil => cases hsome
  | answered hcall _ ih => exact .answered hcall (ih hsome)
  | raised hcall => exact hsome ▸ .raised hcall
  | stray => exact hsome ▸ .stray

/-- The call for one node is the last one. -/
theorem single {node : Music α} {call : Call α β} (hcall : call.For node)
    (answer : Except Fault β) : Called [node] [(call, answer)] (fault? answer) := by
  cases answer with
  | ok b => exact .answered hcall .nil
  | error fault => exact .raised hcall

/-- Without a fault there is one call for each node. -/
theorem length_eq (hcalled : Called nodes calls none) : calls.length = nodes.length := by
  generalize hnone : (none : Option Fault) = ended at hcalled
  induction hcalled with
  | nil => rfl
  | answered _ _ ih => rw [List.length_cons, List.length_cons, ih hnone]
  | raised _ => cases hnone
  | stray => cases hnone

end Called

/-- Folding a piece goes through its nodes in postorder. -/
theorem Folded.called {piece : Music α} {calls : List (Noted α β)} {result : Except Fault β}
    (hfolded : Folded piece calls result) : Called piece.postorder calls (fault? result) := by
  induction hfolded with
  | prim => exact .single .prim _
  | seq _ _ ihleft ihright => exact (ihleft.append ihright).append (.single .seq _)
  | seqLeft _ ih =>
    rw [Music.postorder, List.append_assoc]
    exact ih.append_nodes _
  | seqRight _ _ ihleft ihright => exact (ihleft.append ihright).append_nodes _
  | par _ _ ihleft ihright => exact (ihleft.append ihright).append (.single .par _)
  | parLeft _ ih =>
    rw [Music.postorder, List.append_assoc]
    exact ih.append_nodes _
  | parRight _ _ ihleft ihright => exact (ihleft.append ihright).append_nodes _
  | modify _ ih => exact ih.append (.single .modify _)
  | modifyBody _ ih => exact ih.append_nodes _
  | stray => exact .stray

/-- A computation that keeps notes of calls, whatever else it does. -/
abbrev Noting (n : Type → Type) (α β γ : Type) : Type :=
  ExceptT Fault (StateT (List (Noted α β)) n) γ

namespace Noting

variable {n : Type → Type} [Monad n]

/-- How the computation ends and what the notes are then, from given notes on. -/
def after (notes : List (Noted α β)) (x : Noting n α β γ) :
    n (Except Fault γ × List (Noted α β)) :=
  (ExceptT.run x).run notes

/-- A call whose answer is noted. -/
def call (call : Call α β) (answer : ExceptT Fault n β) : Noting n α β β :=
  ExceptT.mk fun notes => do
    let result ← answer.run
    return (result, notes ++ [(call, result)])

variable {δ : Type}

/-- After a fault nothing more is noted. -/
theorem after_bind (notes : List (Noted α β)) (x : Noting n α β γ) (f : γ → Noting n α β δ) :
    (x >>= f).after notes = x.after notes >>= fun ended =>
      match ended.1 with
      | .ok a => (f a).after ended.2
      | .error fault => pure (.error fault, ended.2) := by
  simp only [after, ExceptT.run_bind, StateT.run_bind]
  refine bind_congr fun ended => ?_
  obtain ⟨result, notes⟩ := ended
  cases result <;> rfl

variable [LawfulMonad n]

/-- The computation adds notes of a kind, which may depend on how it ends. -/
def Adds (kind : List (Noted α β) → Except Fault γ → Prop) (x : Noting n α β γ) : Prop :=
  ∀ notes, Returns (fun ended => ∃ calls, ended.2 = notes ++ calls ∧ kind calls ended.1)
    (x.after notes)

/-- Without its notes, the computation is another one. -/
def Shows (x : Noting n α β γ) (y : ExceptT Fault n γ) : Prop :=
  ∀ notes, Prod.fst <$> x.after notes = y.run

/-- What a sequence adds begins with what its first part does. -/
theorem Adds.bind {before : List (Noted α β) → Except Fault γ → Prop}
    {kind : List (Noted α β) → Except Fault δ → Prop} {x : Noting n α β γ}
    {f : γ → Noting n α β δ} (hx : Adds before x)
    (hfault : ∀ calls fault, before calls (.error fault) → kind calls (.error fault))
    (hf : ∀ calls a, before calls (.ok a) → Adds (fun more => kind (calls ++ more)) (f a)) :
    Adds kind (x >>= f) := by
  intro notes
  rw [after_bind]
  refine (hx notes).bind_of ?_
  rintro ⟨result, _⟩ ⟨calls, rfl, hcalls⟩
  cases result with
  | error fault => exact .pure ⟨calls, rfl, hfault calls fault hcalls⟩
  | ok a =>
    refine (hf calls a hcalls (notes ++ calls)).imp ?_
    rintro ⟨result, _⟩ ⟨more, rfl, hmore⟩
    exact ⟨calls ++ more, List.append_assoc _ _ _, hmore⟩

theorem Shows.bind {x : Noting n α β γ} {y : ExceptT Fault n γ} {f : γ → Noting n α β δ}
    {g : γ → ExceptT Fault n δ} (hx : Shows x y) (hf : ∀ a, Shows (f a) (g a)) :
    Shows (x >>= f) (y >>= g) := by
  intro notes
  rw [after_bind, ExceptT.run_bind, ← hx notes, map_bind, bind_map_left]
  refine bind_congr fun ended => ?_
  obtain ⟨result, calls⟩ := ended
  cases result with
  | error fault => exact map_pure _ _
  | ok a => exact hf a calls

/-- A call adds one note, of itself with its answer. -/
theorem call_adds {kind : List (Noted α β) → Except Fault β → Prop} {handled : Call α β}
    (answer : ExceptT Fault n β) (hkind : ∀ result, kind [(handled, result)] result) :
    Adds kind (call handled answer) := by
  intro notes
  exact .bind fun result => .pure ⟨[(handled, result)], rfl, hkind result⟩

theorem call_shows (handled : Call α β) (answer : ExceptT Fault n β) :
    Shows (call handled answer) answer := by
  intro notes
  change Prod.fst <$> (answer.run >>= fun result => pure (result, _)) = answer.run
  simp

end Noting

namespace Fold

variable {n : Type → Type} [Monad n]

/-- The handlers, with a note of every call. -/
def noted (fold : Fold (ExceptT Fault n) α β) :
    Fold (ExceptT Fault (StateT (List (Noted α β)) n)) α β where
  onPrim primitive := Noting.call (.prim primitive) (fold.onPrim primitive)
  onSeq left right := Noting.call (.seq left right) (fold.onSeq left right)
  onPar left right := Noting.call (.par left right) (fold.onPar left right)
  onModify control body := Noting.call (.modify control body) (fold.onModify control body)

variable [LawfulMonad n] (fold : Fold (ExceptT Fault n) α β)

/-- Taking notes does not change a fold. -/
theorem noted_shows (piece : Music α) :
    Noting.Shows (fold.noted.collapse piece) (fold.collapse piece) := by
  induction piece with
  | prim primitive => exact Noting.call_shows _ _
  | seq left right ihleft ihright | par left right ihleft ihright =>
    exact ihleft.bind fun l => ihright.bind fun r => Noting.call_shows _ _
  | modify control body ih => exact ih.bind fun b => Noting.call_shows _ _
  | stray number => exact fun notes => map_pure _ _

/-- A fold adds the notes of folding the piece. -/
theorem noted_adds (piece : Music α) :
    Noting.Adds (Folded piece) (fold.noted.collapse piece) := by
  induction piece with
  | prim primitive => exact Noting.call_adds _ fun _ => .prim
  | seq left right ihleft ihright =>
    refine ihleft.bind (fun _ _ => .seqLeft) fun ls l hleft => ?_
    refine ihright.bind (fun _ _ hright => .seqRight hleft hright) fun rs r hright => ?_
    exact Noting.call_adds _ fun _ => List.append_assoc ls rs _ ▸ .seq hleft hright
  | par left right ihleft ihright =>
    refine ihleft.bind (fun _ _ => .parLeft) fun ls l hleft => ?_
    refine ihright.bind (fun _ _ hright => .parRight hleft hright) fun rs r hright => ?_
    exact Noting.call_adds _ fun _ => List.append_assoc ls rs _ ▸ .par hleft hright
  | modify control body ih =>
    refine ih.bind (fun _ _ => .modifyBody) fun bs b hbody => ?_
    exact Noting.call_adds _ fun _ => .modify hbody
  | stray number => exact fun notes => .pure ⟨[], (List.append_nil notes).symm, .stray⟩

/-- The notes of a fold by tasks, and how it ends. -/
theorem noted_walk (piece : Music α) :
    Returns (fun (result, calls) => Folded piece calls result)
      (Noting.after [] (fold.noted.walk piece)) := by
  rw [walk_eq_collapse]
  refine (fold.noted_adds piece []).imp ?_
  rintro ⟨result, _⟩ ⟨calls, rfl, hfolded⟩
  exact hfolded

end Fold

/-- The fold by tasks is the fold by recursion. In every monad whose faults leave out what follows,
it is done after a number of turns that the tree alone fixes, unless it fails before, and a task
that takes results always finds them. Whatever else the handlers do, they are called once for each
node, in postorder, with the answers to the calls for the parts of that node, until the first fault:
one that a handler raises, or that of a number reached in the place of a node. -/
theorem fold_calls_in_postorder :
    (∀ (m : Type → Type) [Monad m] [MonadExceptOf Fault m] [LawfulFaults m] (α β : Type)
        (fold : Fold m α β) (piece : Music α),
      fold.walk piece = fold.collapse piece ∧
      (Fold.State.initial piece).advance fold piece.visits =
        fold.collapse piece >>= (fun result => pure (.finished result)) ∧
      ∀ count, fold.walk piece =
          (Fold.State.initial piece).advance fold count >>= Fold.State.finish fold ∧
        Returns Fold.State.Served ((Fold.State.initial piece).advance fold count)) ∧
    (∀ (n : Type → Type) [Monad n] [LawfulMonad n] (α β : Type)
        (fold : Fold (ExceptT Fault n) α β) (piece : Music α),
      Prod.fst <$> Noting.after [] (fold.noted.walk piece) = (fold.walk piece).run ∧
      Returns (fun (result, calls) => Folded piece calls result ∧
          Called piece.postorder calls (fault? result) ∧
          ∀ b, result = .ok b → calls.length = piece.nodes)
        (Noting.after [] (fold.noted.walk piece))) := by
  constructor
  · intro m _ _ _ α β fold piece
    refine ⟨fold.walk_eq_collapse piece, Fold.State.advance_initial fold piece, fun count => ?_⟩
    exact ⟨Fold.State.finish_advance fold count (.initial piece),
      Fold.State.advance_served fold piece count⟩
  · intro n _ _ α β fold piece
    constructor
    · rw [Fold.walk_eq_collapse, Fold.walk_eq_collapse]
      exact fold.noted_shows piece []
    · refine (fold.noted_walk piece).imp ?_
      rintro ⟨result, calls⟩ hfolded
      refine ⟨hfolded, hfolded.called, ?_⟩
      rintro b rfl
      rw [hfolded.called.length_eq, Music.length_postorder]

/-- Counts the leaves of a piece, and tells of each. -/
def tally : Fold (ExceptT Fault Journaled) Int Nat where
  onPrim _ := do
    ExceptT.lift (Recorded.enter (.told "leaf"))
    return 1
  onSeq left right := return left + right
  onPar left right := return left + right
  onModify _ body := return body

/-- A number stands in the place of a node, after a line and before a note. -/
def interrupted : Music Int :=
  .par
    (.seq (.prim (.note ⟨1, 4⟩ 60)) (.prim (.rest ⟨1, 8⟩)))
    (.modify (.transpose 2) (.seq (.stray 7) (.prim (.note ⟨1, 2⟩ 64))))

/-- The calls for the nodes before the number in the place of a node. -/
def callsBefore : List (Noted Int Nat) :=
  [(.prim (.note ⟨1, 4⟩ 60), .ok 1), (.prim (.rest ⟨1, 8⟩), .ok 1), (.seq 1 1, .ok 2)]

/-- Counting leaves, the line is done with when the number in the place of a node is reported;
neither the note after the number nor anything around it is counted. -/
theorem interrupted_called :
    (LawfulMonad Journaled ∧ LawfulFaults (ExceptT Fault Journaled)) ∧
    (Noting.after [] (tally.noted.walk interrupted)).result =
      .ok (.error (.strayPiece 7), callsBefore) ∧
    Folded interrupted callsBefore (.error (.strayPiece 7)) ∧
    Called interrupted.postorder callsBefore (some (.strayPiece 7)) ∧
    (tally.walk interrupted).run.entries = [.told "leaf", .told "leaf"] ∧
    ((Fold.State.initial interrupted).advance tally 12).run.result = .ok (.error (.strayPiece 7)) := by
  have hnotes : (Noting.after [] (tally.noted.walk interrupted)).result =
      .ok (.error (.strayPiece 7), callsBefore) := by
    rw [Fold.walk_eq_collapse]
    rfl
  obtain ⟨hwalk, hturns, _⟩ :=
    fold_calls_in_postorder.1 (ExceptT Fault Journaled) Int Nat tally interrupted
  obtain ⟨_, hreturns⟩ := fold_calls_in_postorder.2 Journaled Int Nat tally interrupted
  obtain ⟨hfolded, hcalled, _⟩ := Recorded.of_result hreturns hnotes
  refine ⟨⟨inferInstance, inferInstance⟩, hnotes, hfolded, hcalled, ?_, ?_⟩
  · rw [hwalk]
    rfl
  · exact congrArg (fun turned => (ExceptT.run turned).result) hturns

end Polyphony
