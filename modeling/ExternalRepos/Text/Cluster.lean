import ExternalRepos.Text.Width

/-!
# Clusters

A text is cut only between clusters: a character that takes cells together with
what changes it, the characters without width behind it and those that joiners
attach to it.

`fit` brings a text to a number of cells; a wide cluster that would be cut in
half leaves a space in its place. `chop` cuts a text into pieces of at most a
number of cells.
-/

namespace ExternalRepos.Text

/-- Characters that are drawn together, and the number of cells they take. -/
structure Cluster where
  chars : List Char
  width : Nat
  deriving DecidableEq, Inhabited

namespace Cluster

/-- The cluster with more characters and cells. -/
def extend (cluster : Cluster) (chars : List Char) (cells : Nat) : Cluster :=
  ⟨cluster.chars ++ chars, cluster.width + cells⟩

/-- The cluster that a text begins with; a character that acts on its neighbours has none there. -/
def first (char : Char) : Cluster :=
  ⟨[char], if char = joiner ∨ char = pictographSelector then 0 else charWidth char⟩

end Cluster

/-- The clusters of a text behind a cluster, and behind a character that took cells if any. -/
def clustersAfter (cluster : Cluster) (last : Option Char) : List Char → List Cluster
  | [] => [cluster]
  | char :: rest =>
      if char = joiner then
        match rest with
        | [] => [cluster.extend [char] 0]
        | joined :: later => clustersAfter (cluster.extend [char, joined] 0) last later
      else if char = pictographSelector then
        clustersAfter (cluster.extend [char] (widening last)) none rest
      else if charWidth char = 0 then
        clustersAfter (cluster.extend [char] 0) last rest
      else
        cluster :: clustersAfter ⟨[char], charWidth char⟩ (some char) rest

/-- The clusters of a text. -/
def clusters : List Char → List Cluster
  | [] => []
  | char :: rest =>
      let cluster := Cluster.first char
      clustersAfter cluster (if cluster.width = 0 then none else some char) rest

/-- As many clusters as a number of cells holds; a cluster cut in half leaves a space. -/
def takeCells : Nat → List Cluster → List Char
  | _, [] => []
  | 0, _ => []
  | room + 1, cluster :: rest =>
      if cluster.width ≤ room + 1 then
        cluster.chars ++ takeCells (room + 1 - cluster.width) rest
      else
        [' ']

/-- A text brought to a number of cells: cut at its end, or filled up with spaces. -/
def fit (cells : Nat) (text : List Char) : List Char :=
  if width text ≤ cells then text ++ List.replicate (cells - width text) ' '
  else takeCells cells (clusters text)

/-- Cuts clusters into pieces of at most a number of cells; the first holds some already. -/
def chopAfter (cells : Nat) (piece : List Char) (filled : Nat) : List Cluster → List (List Char)
  | [] => [piece]
  | cluster :: rest =>
      if cells < filled + cluster.width then
        piece :: chopAfter cells cluster.chars cluster.width rest
      else
        chopAfter cells (piece ++ cluster.chars) (filled + cluster.width) rest

/-- Cuts a text into pieces of at most a number of cells. -/
def chop (cells : Nat) (text : List Char) : List (List Char) :=
  chopAfter cells [] 0 (clusters text)

end ExternalRepos.Text
