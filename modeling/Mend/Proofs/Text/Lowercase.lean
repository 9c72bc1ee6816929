import Mend.Text.Lowercase

namespace Mend.Text

/-- A blank is neither passed over nor a letter: nothing behind it is looked at. -/
theorem meetsCased_append_blank (cs ds : List Char) :
    meetsCased (cs ++ ' ' :: ds) = meetsCased cs := by
  have hignorable : isIgnorable ' ' = false := by decide +kernel
  have hcased : isCased ' ' = false := by decide +kernel
  unfold meetsCased
  induction cs with
  | nil => simp [hignorable, hcased]
  | cons c cs ih =>
    rw [List.cons_append, List.dropWhile_cons, List.dropWhile_cons]
    cases isIgnorable c with
    | true => exact ih
    | false => rfl

theorem lowerAfter_blank (since before cs : List Char) :
    lowerAfter (since ++ ' ' :: before) cs = lowerAfter since cs := by
  induction cs generalizing since with
  | nil => rfl
  | cons c cs ih =>
    have hrest : lowerAfter (c :: (since ++ ' ' :: before)) cs = lowerAfter (c :: since) cs :=
      ih (c :: since)
    simp only [lowerAfter, meetsCased_append_blank, hrest]

theorem lowerAfter_append_blank (before cs ds : List Char) :
    lowerAfter before (cs ++ ' ' :: ds) = lowerAfter before cs ++ ' ' :: lowerList ds := by
  induction cs generalizing before with
  | nil =>
    have hlower : lowerChar ' ' = ' ' := by decide
    have hrest : lowerAfter (' ' :: before) ds = lowerList ds := lowerAfter_blank [] before ds
    simp [lowerAfter, hlower, hrest]
  | cons c cs ih =>
    simp only [List.cons_append, lowerAfter, meetsCased_append_blank, ih, List.append_assoc]

theorem lowerList_append_blank (cs ds : List Char) :
    lowerList (cs ++ ' ' :: ds) = lowerList cs ++ ' ' :: lowerList ds :=
  lowerAfter_append_blank [] cs ds

end Mend.Text
