import TraceView.Session.Draw

namespace TraceView.Session

inductive Step where
  | press (key : KeyEvent)
  | update
  | draw (width height : Nat)
  | log (entry : RichText)
  | logFromWorker (entry : RichText)
  | load (place : Nat)

def step (s : Session) : Step → Session
  | .press key => s.press key
  | .update => s.update
  | .draw width height => (s.draw width height).2
  | .log entry => s.log entry
  | .logFromWorker entry => s.logFromWorker entry
  | .load place => s.stepLoader place

def run (s : Session) (steps : List Step) : Session := steps.foldl step s

@[simp] theorem run_nil (s : Session) : s.run [] = s := rfl

@[simp] theorem run_cons (s : Session) (x : Step) (xs : List Step) :
    s.run (x :: xs) = (s.step x).run xs := rfl

theorem run_append (s : Session) (xs ys : List Step) : s.run (xs ++ ys) = (s.run xs).run ys :=
  List.foldl_append

def keyFrame (width height : Nat) (key : KeyEvent) : List Step :=
  [.press key, .update, .draw width height]

end TraceView.Session
