import SpinLidar.Calibration.Load
import Mathlib.Tactic.SplitIfs
namespace SpinLidar

def EndsIn {ε α : Type} (P : ε → Prop) (Q : α → Prop) (x : Except ε α) : Prop :=
  (∀ e, x = .error e → P e) ∧ ∀ a, x = .ok a → Q a

namespace EndsIn

variable {ε ε' α β : Type} {P : ε → Prop} {Q : α → Prop} {R : β → Prop}

theorem of_error {e : ε} (h : P e) : EndsIn P Q (.error e : Except ε α) := by
  refine ⟨fun _ he => ?_, fun _ he => ?_⟩
  · cases he
    exact h
  · cases he

theorem of_ok {a : α} (h : Q a) : EndsIn P Q (.ok a : Except ε α) := by
  refine ⟨fun _ he => ?_, fun _ he => ?_⟩
  · cases he
  · cases he
    exact h

theorem of_true (x : Except ε α) : EndsIn (fun _ => True) (fun _ => True) x :=
  ⟨fun _ _ => trivial, fun _ _ => trivial⟩

theorem mono {P' : ε → Prop} {Q' : α → Prop} {x : Except ε α} (hx : EndsIn P Q x)
    (hP : ∀ e, P e → P' e) (hQ : ∀ a, Q a → Q' a) : EndsIn P' Q' x :=
  ⟨fun e he => hP e (hx.1 e he), fun a ha => hQ a (hx.2 a ha)⟩

theorem bind {x : Except ε α} {f : α → Except ε β} (hx : EndsIn P Q x)
    (hf : ∀ a, Q a → EndsIn P R (f a)) : EndsIn P R (x >>= f) := by
  cases x with
  | error e => exact of_error (hx.1 e rfl)
  | ok a => exact hf a (hx.2 a rfl)

theorem check {c : Prop} [Decidable c] {e : ε} {f : PUnit → Except ε α} {g : Except ε α}
    (he : P e) (hg : EndsIn P Q g) : EndsIn P Q (if c then throw e >>= f else g) := by
  split
  · exact of_error he
  · exact hg

theorem mapError {P' : ε' → Prop} {x : Except ε' α} {g : ε' → ε} (hx : EndsIn P' Q x)
    (hg : ∀ e, P' e → P (g e)) : EndsIn P Q (x.mapError g) := by
  cases x with
  | error e => exact of_error (hg e (hx.1 e rfl))
  | ok a => exact of_ok (hx.2 a rfl)

theorem mapM {xs : List α} {g : α → Except ε β} (hg : ∀ a ∈ xs, EndsIn P (fun _ => True) (g a)) :
    EndsIn P (fun _ => True) (xs.mapM g) := by
  induction xs with
  | nil => exact of_ok trivial
  | cons a as ih =>
    rw [List.mapM_cons]
    refine bind (hg a List.mem_cons_self) fun b _ => ?_
    refine bind (ih fun a' ha' => hg a' (List.mem_cons_of_mem _ ha')) fun bs _ => ?_
    exact of_ok trivial

end EndsIn

namespace Calibration

/-- The formats a calibration file can be written in. -/
inductive Format where
  | csv
  | xml
  | yaml
deriving DecidableEq

namespace Format

def read (yaml : Yaml.Libraries) : Format → String → String → Except Fault Calibration
  | .csv => Csv.read
  | .xml => Xml.read
  | .yaml => Yaml.read yaml

end Format

theorem make_ends (entries : Array Entry) (res : Float) (file : String) :
    EndsIn (fun _ => True) (fun c => c.entries = entries ∧ c.distanceResolution = res)
      (make entries res file) := by
  unfold make
  split_ifs
  · exact EndsIn.of_error trivial
  · exact EndsIn.of_error trivial
  · exact EndsIn.of_ok ⟨rfl, rfl⟩

namespace Csv

end Csv

namespace Xml

end Xml

end Calibration

end SpinLidar
