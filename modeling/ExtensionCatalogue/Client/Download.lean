import ExtensionCatalogue.Progress

/-!
# Bodies under way

The body of an answered install is taken piece by piece. Each piece is added to what has arrived,
and the share of the announced length that is there then is reported if it advances.
-/

namespace ExtensionCatalogue.Client

/-- The part of a body that has arrived, and the tracker of its share. -/
structure Download where
  body : List UInt8
  tracker : PercentTracker
  deriving DecidableEq, Repr

namespace Download

/-- Nothing of a body has arrived yet. -/
def start (announced : Option UInt64) : Download :=
  ⟨[], .start announced⟩

/-- The next piece arrives, with the percentage to report, if any. -/
def receive (w : Download) (piece : List UInt8) : Option Nat × Download :=
  let body := w.body ++ piece
  let (percent?, tracker) := w.tracker.advance (UInt64.ofNat body.length)
  (percent?, ⟨body, tracker⟩)

/-- The pieces arrive one after the other. -/
def receiveAll (w : Download) : List (List UInt8) → List Nat × Download
  | [] => ([], w)
  | piece :: pieces =>
    let (percent?, w) := w.receive piece
    let (percentages, w) := w.receiveAll pieces
    (percent?.toList ++ percentages, w)

theorem body_receive (w : Download) (piece : List UInt8) :
    (w.receive piece).2.body = w.body ++ piece := rfl

/-- What has arrived is all pieces, however the body was cut. -/
@[simp] theorem body_receiveAll (w : Download) (pieces : List (List UInt8)) :
    (w.receiveAll pieces).2.body = w.body ++ pieces.flatten := by
  induction pieces generalizing w with
  | nil => exact (List.append_nil w.body).symm
  | cons piece pieces ih =>
    show ((w.receive piece).2.receiveAll pieces).2.body = _
    rw [ih, body_receive, List.flatten_cons, List.append_assoc]

end Download

end ExtensionCatalogue.Client
