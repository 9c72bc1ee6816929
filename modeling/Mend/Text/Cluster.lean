import Mend.Text.Width

/-!
Clusters: characters that share their cells. A mark stands on what is before it, a joiner ties the
character behind it to the one before it, and a selector turns a sign before it into a picture, which
takes a cell more. A cut never parts a cluster; where it would, a blank takes the place of its half.
-/

namespace Mend.Text

def joiner : Char := '\u200d'

def selector : Char := '\ufe0f'

/-- The cells that a selector adds behind the last character with a width. -/
def growth (last : Option Char) : Nat := if last.any isSign then 1 else 0

/-- The width of text behind the last character with a width. -/
def widthAfter (last : Option Char) : List Char → Nat
  | [] => 0
  | c :: cs =>
    if c = joiner then
      match cs with
      | [] => 0
      | _ :: ds => widthAfter last ds
    else if c = selector then growth last + widthAfter none cs
    else if charWidth c = 0 then widthAfter last cs
    else charWidth c + widthAfter (some c) cs

def width (cs : List Char) : Nat := widthAfter none cs

structure Cluster where
  text : List Char
  width : Nat
  deriving DecidableEq, Repr

def Cluster.extend (g : Cluster) (cs : List Char) (n : Nat) : Cluster := ⟨g.text ++ cs, g.width + n⟩

def clustersAfter (g : Cluster) (last : Option Char) : List Char → List Cluster
  | [] => [g]
  | c :: cs =>
    if c = joiner then
      match cs with
      | [] => [g.extend [c] 0]
      | d :: ds => clustersAfter (g.extend [c, d] 0) last ds
    else if c = selector then clustersAfter (g.extend [c] (growth last)) none cs
    else if charWidth c = 0 then clustersAfter (g.extend [c] 0) last cs
    else g :: clustersAfter ⟨[c], charWidth c⟩ (some c) cs

def clusters : List Char → List Cluster
  | [] => []
  | c :: cs => clustersAfter ⟨[c], charWidth c⟩ (if charWidth c = 0 then none else some c) cs

/-- The clusters that fit into `w` cells, filled up with a blank if half of one more would fit. -/
def cutClusters (w : Nat) : List Cluster → List Char
  | [] => []
  | g :: gs =>
    if w = 0 then []
    else if g.width ≤ w then g.text ++ cutClusters (w - g.width) gs
    else [' ']

def sized (w : Nat) (cs : List Char) : List Char :=
  if width cs ≤ w then cs ++ List.replicate (w - width cs) ' ' else cutClusters w (clusters cs)

def chop (w : Nat) (piece : List Char) (used : Nat) : List Cluster → List (List Char)
  | [] => [piece]
  | g :: gs =>
    if w < used + g.width then piece :: chop w g.text g.width gs
    else chop w (piece ++ g.text) (used + g.width) gs

@[simp] theorem width_nil : width [] = 0 := rfl

theorem charWidth_joiner : charWidth joiner = 0 := by decide

theorem charWidth_selector : charWidth selector = 0 := by decide

theorem flatMap_clustersAfter (g : Cluster) (last : Option Char) (cs : List Char) :
    (clustersAfter g last cs).flatMap (·.text) = g.text ++ cs := by
  fun_induction clustersAfter g last cs <;> simp_all [Cluster.extend]

theorem flatMap_clusters (cs : List Char) : (clusters cs).flatMap (·.text) = cs := by
  cases cs <;> simp [clusters, flatMap_clustersAfter]

theorem flatten_chop (w : Nat) (piece : List Char) (used : Nat) (gs : List Cluster) :
    (chop w piece used gs).flatten = piece ++ gs.flatMap (·.text) := by
  fun_induction chop w piece used gs <;> simp_all

end Mend.Text
