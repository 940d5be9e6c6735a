/-!
# MD5

The MD5 digest of a row of bytes. It names cached answers and page elements by their content.
-/

namespace Workbench.Hash

structure Words where
  a : UInt32
  b : UInt32
  c : UInt32
  d : UInt32

def sines : List UInt32 :=
  [ 0xd76aa478, 0xe8c7b756, 0x242070db, 0xc1bdceee, 0xf57c0faf, 0x4787c62a, 0xa8304613, 0xfd469501,
   0x698098d8, 0x8b44f7af, 0xffff5bb1, 0x895cd7be, 0x6b901122, 0xfd987193, 0xa679438e, 0x49b40821,
   0xf61e2562, 0xc040b340, 0x265e5a51, 0xe9b6c7aa, 0xd62f105d, 0x02441453, 0xd8a1e681, 0xe7d3fbc8,
   0x21e1cde6, 0xc33707d6, 0xf4d50d87, 0x455a14ed, 0xa9e3e905, 0xfcefa3f8, 0x676f02d9, 0x8d2a4c8a,
   0xfffa3942, 0x8771f681, 0x6d9d6122, 0xfde5380c, 0xa4beea44, 0x4bdecfa9, 0xf6bb4b60, 0xbebfbc70,
   0x289b7ec6, 0xeaa127fa, 0xd4ef3085, 0x04881d05, 0xd9d4d039, 0xe6db99e5, 0x1fa27cf8, 0xc4ac5665,
   0xf4292244, 0x432aff97, 0xab9423a7, 0xfc93a039, 0x655b59c3, 0x8f0ccc92, 0xffeff47d, 0x85845dd1,
   0x6fa87e4f, 0xfe2ce6e0, 0xa3014314, 0x4e0811a1, 0xf7537e82, 0xbd3af235, 0x2ad7d2bb, 0xeb86d391]

def turns : List UInt32 :=
  [[7, 12, 17, 22], [5, 9, 14, 20], [4, 11, 16, 23], [6, 10, 15, 21]].flatMap fun row => row ++ row ++ row ++ row

def turn (x n : UInt32) : UInt32 := (x <<< n) ||| (x >>> (32 - n))

def mix (i : Nat) (w : Words) : UInt32 × Nat :=
  if i < 16 then ((w.b &&& w.c) ||| (~~~w.b &&& w.d), i)
  else if i < 32 then ((w.d &&& w.b) ||| (~~~w.d &&& w.c), (5 * i + 1) % 16)
  else if i < 48 then (w.b ^^^ w.c ^^^ w.d, (3 * i + 5) % 16)
  else (w.c ^^^ (w.b ||| ~~~w.d), 7 * i % 16)

def step (block : Array UInt32) (w : Words) (i : Nat) (sine by_ : UInt32) : Words :=
  let (f, g) := mix i w
  ⟨w.d, w.b + turn (f + w.a + sine + block.getD g 0) by_, w.b, w.c⟩

def digestBlock (w : Words) (block : Array UInt32) : Words :=
  let out := ((sines.zip turns).zipIdx).foldl (fun w ((sine, by_), i) => step block w i sine by_) w
  ⟨w.a + out.a, w.b + out.b, w.c + out.c, w.d + out.d⟩

variable (bytes : List UInt8)

def wordOf : UInt32 := (bytes.zipIdx.map fun (b, i) => b.toUInt32 <<< (8 * i).toUInt32).foldl (· ||| ·) 0

def chunks {α : Type} (size : Nat) : Nat → List α → List (List α)
  | 0, _ => []
  | fuel + 1, xs => if xs.isEmpty then [] else xs.take size :: chunks size fuel (xs.drop size)

def lowBytes (count n : Nat) : List UInt8 := (List.range count).map fun i => (n / Nat.pow 256 i % 256).toUInt8

def filled : List UInt8 :=
  let zeros := (119 - bytes.length % 64) % 64
  bytes ++ 0x80 :: List.replicate zeros 0 ++ lowBytes 8 (8 * bytes.length)

/-- The digest of some bytes, in sixteen bytes. -/
def md5 : List UInt8 :=
  let all := filled bytes
  let blocks := (chunks 64 all.length all).map fun block => ((chunks 4 64 block).map wordOf).toArray
  let w := blocks.foldl digestBlock ⟨0x67452301, 0xefcdab89, 0x98badcfe, 0x10325476⟩
  [w.a, w.b, w.c, w.d].flatMap fun x => lowBytes 4 x.toNat

/-- The digest of a text in hexadecimal digits. -/
def md5Text (s : String) : String :=
  String.ofList ((md5 s.toUTF8.toList).flatMap fun b =>
    let ds := Nat.toDigits 16 b.toNat
    if ds.length < 2 then '0' :: ds else ds)

end Workbench.Hash
