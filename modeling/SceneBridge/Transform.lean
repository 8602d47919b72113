import SceneBridge.Single

/-!
# Transforms

A local transform is a position, a rotation and a scale; a matrix is column-major. `toMatrix`
composes the three, scale first, and `ofMatrix` reads them back, dropping shear. Both fix the order
of every rounding step, since another order may differ in the last bit.
-/

namespace SceneBridge

/-- A column-major 4x4 matrix. -/
abbrev Matrix := Vector Single 16

namespace Matrix

def identity : Matrix :=
  #v[1, 0, 0, 0,
     0, 1, 0, 0,
     0, 0, 1, 0,
     0, 0, 0, 1]

/-- Where the matrix puts the origin: the last column without its fourth entry. -/
def origin (m : Matrix) : Vector Single 3 := #v[m[12], m[13], m[14]]

def linearDeterminant (m : Matrix) : Single :=
  m[0] * (m[5] * m[10] - m[9] * m[6]) - m[4] * (m[1] * m[10] - m[9] * m[2])
    + m[8] * (m[1] * m[6] - m[5] * m[2])

/-- The length of one of the first three columns, without its fourth entry. -/
def columnLength (m : Matrix) (c : Fin 3) : Single :=
  let x := m[4 * c.val]
  let y := m[4 * c.val + 1]
  let z := m[4 * c.val + 2]
  (x * x + y * y + z * z).sqrt

/-- The scale of each axis. A reflected basis is put down to the first axis. -/
def axisScale (m : Matrix) : Vector Single 3 :=
  let x := m.columnLength 0
  #v[if m.linearDeterminant.less 0 then -x else x, m.columnLength 1, m.columnLength 2]

/-- The entry of the rotation block, the scale divided out. An axis of no length keeps its
direction. -/
def rotationEntry (m : Matrix) (scale : Vector Single 3) (column row : Fin 3) : Single :=
  if scale[column].sameNumber 0 then
    if column = row then 1 else 0
  else
    m[4 * column.val + row.val] / scale[column]

/-- The quaternion of the rotation block, taken from its largest component. -/
def rotation (m : Matrix) (scale : Vector Single 3) : Vector Single 4 :=
  let r := m.rotationEntry scale
  let trace := r 0 0 + r 1 1 + r 2 2
  if Single.less 0 trace then
    let s := (trace + 1).sqrt * 2
    #v[(r 1 2 - r 2 1) / s, (r 2 0 - r 0 2) / s, (r 0 1 - r 1 0) / s, Single.quarter * s]
  else if (r 1 1).less (r 0 0) && (r 2 2).less (r 0 0) then
    let s := (1 + r 0 0 - r 1 1 - r 2 2).sqrt * 2
    #v[Single.quarter * s, (r 0 1 + r 1 0) / s, (r 2 0 + r 0 2) / s, (r 1 2 - r 2 1) / s]
  else if (r 2 2).less (r 1 1) then
    let s := (1 + r 1 1 - r 0 0 - r 2 2).sqrt * 2
    #v[(r 0 1 + r 1 0) / s, Single.quarter * s, (r 1 2 + r 2 1) / s, (r 2 0 - r 0 2) / s]
  else
    let s := (1 + r 2 2 - r 0 0 - r 1 1).sqrt * 2
    #v[(r 2 0 + r 0 2) / s, (r 1 2 + r 2 1) / s, Single.quarter * s, (r 0 1 - r 1 0) / s]

end Matrix

/-- A transform relative to the parent, or to the world for an entity without one. The rotation is
a quaternion, its real part last. -/
structure LocalTransform where
  position : Vector Single 3
  rotation : Vector Single 4
  scale : Vector Single 3
deriving DecidableEq

namespace LocalTransform

def identity : LocalTransform :=
  { position := #v[0, 0, 0], rotation := #v[0, 0, 0, 1], scale := #v[1, 1, 1] }

instance : Inhabited LocalTransform := ⟨identity⟩

/-- Scale, then rotate, then move. -/
def toMatrix (t : LocalTransform) : Matrix :=
  let (qx, qy, qz, qw) := (t.rotation[0], t.rotation[1], t.rotation[2], t.rotation[3])
  let (sx, sy, sz) := (t.scale[0], t.scale[1], t.scale[2])
  let (x2, y2, z2) := (qx + qx, qy + qy, qz + qz)
  let (xx, xy, xz) := (qx * x2, qx * y2, qx * z2)
  let (yy, yz, zz) := (qy * y2, qy * z2, qz * z2)
  let (wx, wy, wz) := (qw * x2, qw * y2, qw * z2)
  #v[sx * (1 - yy - zz), sx * (xy + wz), sx * (xz - wy), 0,
     sy * (xy - wz), sy * (1 - xx - zz), sy * (yz + wx), 0,
     sz * (xz + wy), sz * (yz - wx), sz * (1 - xx - yy), 0,
     t.position[0], t.position[1], t.position[2], 1]

def ofMatrix (m : Matrix) : LocalTransform :=
  { position := m.origin
    rotation := m.rotation m.axisScale
    scale := m.axisScale }

theorem origin_toMatrix (t : LocalTransform) : t.toMatrix.origin = t.position := by
  rcases t with ⟨⟨⟨position⟩, hsize⟩, rotation, scale⟩
  match position, hsize with
  | [x, y, z], _ => rfl

end LocalTransform

end SceneBridge
