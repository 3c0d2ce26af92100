import Mathlib
import WindowChrome.Shadow.Bitmap

/-!
# Pixels that are not covered

However a product is rounded, it has the product of the signs unless it is
zero, and what is no number is rounded to zero.
-/

namespace WindowChrome

open Float.Model (UnpackedFloat Format)
open Float.Model.UnpackedFloat

namespace Number

variable {sign other : Sign} {format : Format} {a b : UnpackedFloat}

/-- The number is not of the given sign, unless it is zero. -/
def Avoids (sign : Sign) : UnpackedFloat → Prop
  | .infinity other | .finite other _ _ _ => other ≠ sign
  | .zero _ | .notANumber => True

theorem avoids_unpack (hother : other ≠ sign)
    (exponent : BitVec format.exponentBits)
    (mantissa : BitVec format.mantissaBitsWithoutImplicit) :
    Avoids sign
      (unpack format (packComponents format other exponent mantissa)) := by
  simp only [unpack, unpackSign_packComponents, Sign.ofBitVec_toBitVec]
  split
  · split
    · exact hother
    · trivial
  · split
    · split
      · trivial
      · exact hother
    · exact hother

theorem avoids_pack (ha : Avoids sign a) :
    Avoids sign (Float32.Model.pack a).unpack := by
  show Avoids sign (unpack .binary32 (pack .binary32 a))
  cases a with
  | notANumber =>
      rw [pack, unpack_packedNaN]
      trivial
  | zero other =>
      rw [pack, unpack_packedZero]
      trivial
  | infinity other => exact avoids_unpack ha _ _
  | finite other mantissa exponent hpos =>
      simp only [pack]
      split
      · exact avoids_unpack ha _ _
      · split
        · exact avoids_unpack ha _ _
        · exact avoids_unpack ha _ _

theorem avoids_roundWithAccuracy (hother : other ≠ sign) (mantissa : Nat)
    (exponent : Int) (accuracy : Accuracy) :
    Avoids sign
      (roundWithAccuracy format other mantissa exponent accuracy) := by
  simp only [roundWithAccuracy]
  split
  · trivial
  · exact hother

theorem sign_mul_ne {s t : Sign} (hs : s ≠ sign) (ht : t ≠ other) :
    s * t ≠ -(sign * other) := by
  cases s <;> cases sign <;> cases t <;> cases other <;>
    first | contradiction | nofun

theorem avoids_mul (ha : Avoids sign a) (hb : Avoids other b) :
    Avoids (-(sign * other)) (mul format a b) := by
  cases a with
  | notANumber => cases b <;> trivial
  | zero _ => cases b <;> trivial
  | infinity _ =>
      cases b with
      | notANumber | zero => trivial
      | infinity _ => exact sign_mul_ne ha hb
      | finite _ _ _ _ => exact sign_mul_ne ha hb
  | finite _ _ _ _ =>
      cases b with
      | notANumber | zero => trivial
      | infinity _ => exact sign_mul_ne ha hb
      | finite _ _ _ _ =>
          exact avoids_roundWithAccuracy (sign_mul_ne ha hb) _ _ _

theorem sign_div_positive (sign : Sign) : sign / .positive = sign := by
  cases sign <;> rfl

theorem avoids_div (ha : Avoids sign a) {mantissa : Nat} {exponent : Int}
    (hpos : 0 < mantissa) :
    Avoids sign (div format a (.finite .positive mantissa exponent hpos)) := by
  cases a with
  | notANumber => trivial
  | zero _ => trivial
  | infinity other =>
      simp only [div, sign_div_positive]
      exact ha
  | finite other _ _ _ =>
      simp only [div, sign_div_positive]
      exact avoids_roundWithAccuracy ha _ _ _

theorem avoids_ofNat (n : Nat) : Avoids .negative (ofNat format n) := by
  simp only [ofNat, ofInt, UnpackedFloat.normalize]
  split
  · rename_i hlt
    rw [Int.compare_eq_lt] at hlt
    omega
  · trivial
  · simp only [UnpackedFloat.round]
    exact avoids_roundWithAccuracy Sign.noConfusion _ _ _

theorem not_zero_lt_iff :
    ¬ (UnpackedFloat.zero sign).lt a = true ↔ Avoids .positive a := by
  cases a with
  | notANumber | zero => exact ⟨fun _ => trivial, fun _ => nofun⟩
  | infinity other | finite other =>
      cases other <;> simp [Avoids, UnpackedFloat.lt, UnpackedFloat.compare]

theorem avoids_of_zero_lt (hlt : (UnpackedFloat.zero sign).lt a = true) :
    Avoids .negative a := by
  cases a with
  | notANumber | zero => trivial
  | infinity other | finite other =>
      cases other with
      | negative => cases hlt
      | positive => exact Sign.noConfusion

theorem toInt_nonpos (ha : Avoids .positive a) (greatest : Int) :
    a.toInt 0 greatest ≤ 0 := by
  cases a with
  | notANumber | zero => exact Int.le_refl 0
  | infinity other =>
      cases other with
      | negative => exact Int.le_refl 0
      | positive => exact absurd rfl ha
  | finite other =>
      cases other with
      | negative =>
          simp only [toInt, roundToInt, Sign.apply]
          omega
      | positive => exact absurd rfl ha

end Number

namespace Bitmap

/-- A number in single precision is not of the given sign, unless it is
zero. -/
def Lacks (sign : Sign) (value : Float32) : Prop :=
  Number.Avoids sign value.toModel.unpack

variable {sign other : Sign} {value : Float32}

theorem pos_iff : (0.0 : Float32) < value ↔
    (UnpackedFloat.zero .positive).lt value.toModel.unpack = true := by
  show decide _ = true ↔ _
  rw [decide_eq_true_eq]
  rfl

theorem not_pos_iff :
    ¬ (0.0 : Float32) < value ↔ Lacks .positive value := by
  rw [pos_iff]
  exact Number.not_zero_lt_iff

theorem lacks_of_pos (hpos : (0.0 : Float32) < value) :
    Lacks .negative value :=
  Number.avoids_of_zero_lt (pos_iff.mp hpos)

theorem Lacks.mul {a b : Float32} (ha : Lacks sign a) (hb : Lacks other b) :
    Lacks (-(sign * other)) (a * b) :=
  Number.avoids_pack (Number.avoids_mul ha hb)

theorem lacks_intensity (component : UInt8) :
    Lacks .negative (Color.intensity component) :=
  Number.avoids_pack
    (Number.avoids_div (Number.avoids_pack (Number.avoids_ofNat _)) (by decide))

theorem Lacks.toUInt64_eq_zero (hvalue : Lacks .positive value) :
    value.toUInt64 = 0 := by
  show UInt64.ofNatClamp (toInt 0 _ value.toModel.unpack).toNat = 0
  rw [Int.toNat_eq_zero.mpr (Number.toInt_nonpos hvalue _)]
  rfl

theorem Lacks.nearest_eq_zero (hvalue : Lacks .positive value) :
    nearest value = 0 := by
  have htwice : Lacks .positive (value * 2.0) :=
    hvalue.mul (lacks_of_pos (by decide))
  simp only [nearest, htwice.toUInt64_eq_zero]
  rfl

def shaded (color : Color) (coverage : Float32) : UInt32 :=
  (shade color coverage).getD 0

theorem shaded_eq_zero_of_product {color : Color} {coverage : Float32}
    (hproduct : ¬ (0.0 : Float32) < coverage * Color.intensity color.alpha) :
    shaded color coverage = 0 := by
  have hlevel : ∀ intensity, Lacks .negative intensity → nearest
      (intensity * (coverage * Color.intensity color.alpha) * 255.0) = 0 := by
    intro intensity hintensity
    have hchannel : Lacks .positive
        (intensity * (coverage * Color.intensity color.alpha)) :=
      hintensity.mul (not_pos_iff.mp hproduct)
    have hscaled : Lacks .positive
        (intensity * (coverage * Color.intensity color.alpha) * 255.0) :=
      hchannel.mul (lacks_of_pos (by decide))
    exact hscaled.nearest_eq_zero
  simp only [shaded, shade]
  split
  · rfl
  · simp only [Option.getD_some, hlevel _ (lacks_intensity _),
      hlevel 1.0 (lacks_of_pos (by decide))]
    rfl

theorem shaded_eq_zero {color : Color} {coverage : Float32}
    (hcoverage : ¬ (0.0 : Float32) < coverage) : shaded color coverage = 0 := by
  apply shaded_eq_zero_of_product
  have hproduct : Lacks .positive (coverage * Color.intensity color.alpha) :=
    (not_pos_iff.mp hcoverage).mul (lacks_intensity color.alpha)
  exact not_pos_iff.mpr hproduct

end Bitmap
end WindowChrome
