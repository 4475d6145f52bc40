import SchemaGen.Text.CaseTable
import SchemaGen.Text.ClusterTable

namespace SchemaGen.Text

def joiner : Char := Char.ofNat 0x200D

def isExtend (c : Char) : Bool := c.toNat ≥ 128 && inRanges extendRanges c.toNat

def isSpacingMark (c : Char) : Bool := c.toNat ≥ 128 && inRanges spacingMarkRanges c.toNat

def isPrepend (c : Char) : Bool := c.toNat ≥ 128 && inRanges prependRanges c.toNat

def isPictograph (c : Char) : Bool := c.toNat ≥ 128 && inRanges pictographRanges c.toNat

def isControl (c : Char) : Bool := c < ' ' || (c.toNat ≥ 127 && inRanges ((127, 127) :: controlRanges) c.toNat)

/-- Whether a character belongs to the cluster before it, which is given with its last character
first. -/
def joins (cluster : List Char) (c : Char) : Bool :=
  match cluster with
  | [] => false
  | p :: before =>
    if p = '\r' && c = '\n' then true
    else if isControl p || isControl c then false
    else isExtend c || isSpacingMark c || isPrepend p ||
      (p = joiner && isPictograph c &&
        match before.dropWhile fun d => isExtend d && d != joiner with
        | d :: _ => isPictograph d
        | [] => false)

/-- The clusters of a text behind a cluster that has begun, given with its last character first. -/
def clustersAfter (cluster : List Char) : List Char → List (List Char)
  | [] => [cluster.reverse]
  | c :: cs =>
    if joins cluster c then clustersAfter (c :: cluster) cs
    else cluster.reverse :: clustersAfter [c] cs

/-- The clusters of a text: characters that a reader takes for one. Scripts that have neither case nor ASCII
digits have no rules here. -/
def clusters : List Char → List (List Char)
  | [] => []
  | c :: cs => clustersAfter [c] cs

theorem flatten_clustersAfter (cluster cs : List Char) :
    (clustersAfter cluster cs).flatten = cluster.reverse ++ cs := by
  induction cs generalizing cluster with
  | nil => simp [clustersAfter]
  | cons c cs ih =>
    unfold clustersAfter
    split <;> simp [ih]

theorem flatten_clusters (cs : List Char) : (clusters cs).flatten = cs := by
  cases cs with
  | nil => rfl
  | cons c cs => simp [clusters, flatten_clustersAfter]

end SchemaGen.Text
