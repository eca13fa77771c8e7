import SmartGarden.SettingScreen.Lemmas
import SmartGarden.Swift.Decimal

/-!
This module contains the threshold words as a code for pairs of numbers: which pairs give a word of four
characters, and which can be told apart by their words.
-/

open Swift

namespace SmartGarden

def writeThreshold (path : Path) (vc : SettingViewController) : List Effect :=
  match path with
  | .thresholdTemp => vc.writeThresholdTempData
  | .thresholdSoilMosture => vc.writeThresholdSoilMostureData
  | .thresholdLight => vc.writeThresholdLightData
  | _ => []

/--
The two fields of a path are filled with texts that denote `above` and `below`.
-/
def Denotes (texts : Texts) (path : Path) (above below : Int) : Prop :=
  ∃ aboveField belowField, thresholdFields path = some (aboveField, belowField)
    ∧ (∃ text ∈ texts aboveField, text ≠ [] ∧ Int? text = some above)
    ∧ (∃ text ∈ texts belowField, text ≠ [] ∧ Int? text = some below)

namespace SettingViewController

/--
Two screens write words of four characters that differ if the thresholds do.
-/
def Unambiguous (path : Path) (vc vc' : SettingViewController) (thresholds thresholds' : Int × Int)
    : Prop :=
  ∃ word word', writes (writeThreshold path vc) = [(path, word)]
    ∧ writes (writeThreshold path vc') = [(path, word')]
    ∧ word.length = 4
    ∧ word'.length = 4
    ∧ (thresholds ≠ thresholds' → word ≠ word')

def word (thresholds : Int × Int) : Str :=
  format02d thresholds.1 ++ format02d thresholds.2

def shown (thresholds : Int × Int) : Int × Int :=
  (thresholds.1.bmod (2 ^ 32), thresholds.2.bmod (2 ^ 32))

def FitsFields (thresholds : Int × Int) : Prop :=
  (-9 ≤ (shown thresholds).1 ∧ (shown thresholds).1 ≤ 99)
    ∧ -9 ≤ (shown thresholds).2 ∧ (shown thresholds).2 ≤ 99

instance (thresholds : Int × Int) : Decidable (FitsFields thresholds) :=
  inferInstanceAs (Decidable ((-9 ≤ (shown thresholds).1 ∧ (shown thresholds).1 ≤ 99)
    ∧ -9 ≤ (shown thresholds).2 ∧ (shown thresholds).2 ≤ 99))

theorem writes_writeThreshold {vc : SettingViewController} {path : Path} {above below : Int}
    (h : Denotes vc.texts path above below)
    : writes (writeThreshold path vc) = [(path, word (above, below))] := by
  obtain ⟨aboveField, belowField, hfields, ⟨aboveText, haboveText, _, habove⟩,
    ⟨belowText, hbelowText, _, hbelow⟩⟩ := h
  have hword : submittedWord vc.texts path = some (word (above, below)) := by
    unfold submittedWord thresholdWord?
    rw [hfields]
    dsimp
    rw [haboveText, hbelowText]
    dsimp
    unfold thresholdWord word
    rw [habove, hbelow]
    rfl
  have hwrite : writeThreshold path vc = vc.writeThresholdData path aboveField belowField := by
    cases path with
    | thresholdTemp =>
      cases hfields
      rfl
    | thresholdSoilMosture =>
      cases hfields
      rfl
    | thresholdLight =>
      cases hfields
      rfl
    | _ => contradiction
  rw [hwrite, writes_writeThresholdData _ _ _ _ hfields, hword]
  rfl

theorem length_word (thresholds : Int × Int)
    : (word thresholds).length = 4 ↔ FitsFields thresholds := by
  obtain ⟨above, below⟩ := thresholds
  unfold word FitsFields shown
  rw [List.length_append]
  have habove := length_format02d above
  have hbelow := length_format02d below
  dsimp only
  omega

theorem word_inj {thresholds thresholds' : Int × Int} (h : FitsFields thresholds)
    (h' : FitsFields thresholds')
    : word thresholds = word thresholds' ↔ shown thresholds = shown thresholds' := by
  obtain ⟨above, below⟩ := thresholds
  obtain ⟨above', below'⟩ := thresholds'
  have habove := (length_format02d above).2.mpr h.1
  have habove' := (length_format02d above').2.mpr h'.1
  unfold word shown
  rw [Prod.mk.injEq]
  rw [← format02d_inj, ← format02d_inj]
  constructor
  . intro heq
    exact List.append_inj heq (habove.trans habove'.symm)
  . rintro ⟨heq, heq'⟩
    rw [heq, heq']

/--
Words have four characters and tell two pairs of thresholds apart exactly when all numbers, as 32 bit
integers, have at most two characters, and the pairs differ as 32 bit integers if they differ at all.
-/
theorem unambiguous_iff {path : Path} {vc vc' : SettingViewController}
    {above below above' below' : Int} (h : Denotes vc.texts path above below)
    (h' : Denotes vc'.texts path above' below')
    : Unambiguous path vc vc' (above, below) (above', below')
        ↔
      FitsFields (above, below)
        ∧ FitsFields (above', below')
        ∧ ((above, below) ≠ (above', below') → shown (above, below) ≠ shown (above', below')) := by
  unfold Unambiguous
  rw [writes_writeThreshold h, writes_writeThreshold h']
  constructor
  . rintro ⟨_, _, hword, hword', hlength, hlength', hdiffer⟩
    cases hword
    cases hword'
    rw [length_word] at hlength hlength'
    refine ⟨hlength, hlength', ?_⟩
    intro hne hshown
    exact hdiffer hne ((word_inj hlength hlength').mpr hshown)
  . rintro ⟨hfits, hfits', hdiffer⟩
    refine ⟨_, _, rfl, rfl, (length_word _).mpr hfits, (length_word _).mpr hfits', ?_⟩
    intro hne hword
    exact hdiffer hne ((word_inj hfits hfits').mp hword)

def tempTexts (above below : Str) : Texts := fun textField =>
  match textField with
  | .thresholdAboveTempTextField => some above
  | .thresholdBelowTempTextField => some below
  | _ => some []

theorem denotes_tempTexts {above below : Str} {n m : Int} (habove : Int? above = some n)
    (hbelow : Int? below = some m) : Denotes (tempTexts above below) .thresholdTemp n m := by
  refine ⟨_, _, rfl, ⟨above, rfl, ?_, habove⟩, ⟨below, rfl, ?_, hbelow⟩⟩
  . rintro rfl
    contradiction
  . rintro rfl
    contradiction

theorem ambiguous_word
    : ¬ ∀ (path : Path) (vc vc' : SettingViewController) (above below above' below' : Int),
        Denotes vc.texts path above below
          →
        Denotes vc'.texts path above' below'
          →
        Unambiguous path vc vc' (above, below) (above', below') := by
  intro h
  obtain ⟨word, word', hword, hword', _, _, hdiffer⟩ := h .thresholdTemp
    { texts := tempTexts ['1', '0', '1'] ['1'] } { texts := tempTexts ['1', '0'] ['1', '0', '1'] }
    101 1 10 101 (denotes_tempTexts (by decide) (by decide)) (denotes_tempTexts (by decide) (by decide))
  have hsame : writes (writeThreshold .thresholdTemp { texts := tempTexts ['1', '0', '1'] ['1'] })
      = writes (writeThreshold .thresholdTemp { texts := tempTexts ['1', '0'] ['1', '0', '1'] }) := by
    decide
  rw [hword, hword'] at hsame
  cases hsame
  exact absurd rfl (hdiffer (by decide))

theorem unambiguous_two_digits
    : Unambiguous .thresholdTemp { texts := tempTexts ['3', '5'] ['0', '7'] }
        { texts := tempTexts ['3', '5'] ['-', '7'] } (35, 7) (35, -7) :=
  (unambiguous_iff (denotes_tempTexts (by decide) (by decide))
    (denotes_tempTexts (by decide) (by decide))).mpr (by decide)

end SettingViewController

end SmartGarden
