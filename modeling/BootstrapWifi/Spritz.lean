import BootstrapWifi.StreamCipher
import Mathlib.Logic.Function.Iterate

namespace BootstrapWifi.Spritz

open StreamCipher

structure State where
  s : Vector UInt8 256
  a : UInt8
  i : UInt8
  j : UInt8
  k : UInt8
  w : UInt8
  z : UInt8

namespace State

def read (st : State) (x : UInt8) : UInt8 := st.s.get x.toFin

def swap (st : State) (x y : UInt8) : State :=
  { st with s := (st.s.set x.toFin (st.read y)).set y.toFin (st.read x) }

end State

def initializeState : State where
  s := Vector.ofFn fun v ↦ v.val.toUInt8
  a := 0
  i := 0
  j := 0
  k := 0
  w := 1
  z := 0

def update (st : State) : State :=
  let i := st.i + st.w
  let y := st.j + st.read i
  let j := st.k + st.read y
  let k := i + st.k + st.read j
  { st with i := i, j := j, k := k }.swap i j

def output (st : State) : UInt8 × State :=
  let y1 := st.z + st.k
  let x1 := st.i + st.read y1
  let y2 := st.j + st.read x1
  let z := st.read y2
  (z, { st with z := z })

/-- One turn of the loop of `crush`: order the entries `v` and `255 - v`. -/
def crushStep (st : State) (v : UInt8) : State :=
  let y := 255 - v
  if st.read v > st.read y then st.swap v y else st

def crush (st : State) : State :=
  (List.range 128).foldl (fun st v ↦ crushStep st v.toUInt8) st

def whip (st : State) : State :=
  let st := update^[512] st
  { st with w := st.w + 2 }

def shuffle (st : State) : State :=
  let st := whip (crush (whip (crush (whip st))))
  { st with a := 0 }

def absorbStop (st : State) : State :=
  let st := if st.a = 128 then shuffle st else st
  { st with a := st.a + 1 }

def absorbNibble (st : State) (x : UInt8) : State :=
  let st := if st.a = 128 then shuffle st else st
  let st := st.swap st.a (128 + x)
  { st with a := st.a + 1 }

def absorbByte (st : State) (b : UInt8) : State :=
  absorbNibble (absorbNibble st (b &&& 0xf)) (b >>> 4)

def absorb (st : State) (msg : List UInt8) : State := msg.foldl absorbByte st

def drip (st : State) : UInt8 × State :=
  let st := if st.a > 0 then shuffle st else st
  output (update st)

def keySetup (key : List UInt8) : State := absorb initializeState key

/-- The state both directions start from, before the first byte of the message. -/
def session (nonce key : List UInt8) : State := absorb (absorbStop (keySetup key)) nonce

def spritzEncrypt (msg nonce key : List UInt8) : List UInt8 :=
  apply drip (· + ·) msg (session nonce key)

def spritzDecrypt (c nonce key : List UInt8) : List UInt8 :=
  apply drip (· - ·) c (session nonce key)

/-- The bytes of `n` drips, and the state behind them. -/
def drips : ℕ → State → List UInt8 × State
  | 0, st => ([], st)
  | n + 1, st =>
    let rest := drips n (drip st).2
    ((drip st).1 :: rest.1, rest.2)

def squeeze (outlen : ℕ) (st : State) : List UInt8 × State :=
  let st := if st.a > 0 then shuffle st else st
  drips outlen st

/-- The state that `spritz_hash` squeezes; `r` is the length of its output. -/
def hashState (r : UInt8) (msg : List UInt8) : State :=
  absorb (absorbStop (absorb initializeState msg)) [r]

/-- The state that `spritz_auth` squeezes. -/
def authState (r : UInt8) (msg key : List UInt8) : State :=
  absorb (absorbStop (absorb (absorbStop (keySetup key)) msg)) [r]

/-- `none` where the C function returns -1 and leaves `out` alone. -/
def spritzHash (outlen : ℕ) (msg : List UInt8) : Option (List UInt8) :=
  if outlen > 255 then none else some (squeeze outlen (hashState outlen.toUInt8 msg)).1

def spritzStream (outlen : ℕ) (key : List UInt8) : List UInt8 :=
  (squeeze outlen (absorb initializeState key)).1

def spritzAuth (outlen : ℕ) (msg key : List UInt8) : Option (List UInt8) :=
  if outlen > 255 then none else some (squeeze outlen (authState outlen.toUInt8 msg key)).1

@[simp] theorem length_spritzEncrypt (msg nonce key : List UInt8) :
    (spritzEncrypt msg nonce key).length = msg.length := length_apply _ _ _ _

@[simp] theorem length_spritzDecrypt (c nonce key : List UInt8) :
    (spritzDecrypt c nonce key).length = c.length := length_apply _ _ _ _

theorem spritzDecrypt_spritzEncrypt (msg nonce key : List UInt8) :
    spritzDecrypt (spritzEncrypt msg nonce key) nonce key = msg :=
  apply_apply (fun _ _ ↦ UInt8.add_sub_cancel _ _) msg (session nonce key)

end BootstrapWifi.Spritz
