import Ustunet.Stream

/-!
# The selector

`util.rs`: four slots, each empty or with a future in it. Polling it polls the filled slots in
the order A, B, C, D and returns the output of the first future that is ready, whose slot is
then free. Futures are step machines: a poll may change the future and the surroundings `W`.
-/

namespace Ustunet

/-- A future with output `O`, polled in surroundings `W`. -/
class Future (F W : Type) (O : outParam Type) where
  poll : F → W → Poll O × F × W

structure Selector (A B C D : Type) where
  a : Option A
  b : Option B
  c : Option C
  d : Option D

inductive Selected (A B C D : Type)
  | a (x : A)
  | b (x : B)
  | c (x : C)
  | d (x : D)

/-- Poll the future of a slot, if there is one; a future that is ready is taken out. -/
def pollSlot {F W O : Type} [Future F W O] (slot : Option F) (w : W) :
    Option O × Option F × W :=
  match slot with
  | none => (none, none, w)
  | some f =>
    match Future.poll f w with
    | (.ready x, _, w) => (some x, none, w)
    | (.pending, f, w) => (none, some f, w)

namespace Selector

variable {A B C D : Type}

def new : Selector A B C D := ⟨none, none, none, none⟩

variable {W OA OB OC OD : Type}
variable [Future A W OA] [Future B W OB] [Future C W OC] [Future D W OD]

/-- `SelectorFuture::poll`. -/
def poll (sel : Selector A B C D) (w : W) :
    Poll (Selected OA OB OC OD) × Selector A B C D × W :=
  match pollSlot sel.a w with
  | (some x, a, w) => (.ready (.a x), { sel with a }, w)
  | (none, a, w) =>
    match pollSlot sel.b w with
    | (some x, b, w) => (.ready (.b x), { sel with a, b }, w)
    | (none, b, w) =>
      match pollSlot sel.c w with
      | (some x, c, w) => (.ready (.c x), { sel with a, b, c }, w)
      | (none, c, w) =>
        match pollSlot sel.d w with
        | (some x, d, w) => (.ready (.d x), ⟨a, b, c, d⟩, w)
        | (none, d, w) => (.pending, ⟨a, b, c, d⟩, w)

end Selector

end Ustunet
