import Mathlib

namespace TextStyle

def characterAttributeBold : BitVec 32 := 1
def characterAttributeItalic : BitVec 32 := 1 <<< 1
def characterAttributeUnderline : BitVec 32 := 1 <<< 2
def characterAttributeBlink : BitVec 32 := 1 <<< 3
def characterAttributeInverse : BitVec 32 := 1 <<< 4
def characterAttributeInvisible : BitVec 32 := 1 <<< 5
def characterAttributeStrikethrough : BitVec 32 := 1 <<< 6
def characterAttributeProtected : BitVec 32 := 1 <<< 7
def characterAttributeDim : BitVec 32 := 1 <<< 8
def characterAttributeTruecolorForeground : BitVec 32 := 1 <<< 9
def characterAttributeTruecolorBackground : BitVec 32 := 1 <<< 10

def colorIndexForeground : BitVec 32 := 256
def colorIndexBackground : BitVec 32 := 257
def colorIndexCursor : BitVec 32 := 258
def numIndexedColors : Nat := 259

def encode (foreColor backColor effect : BitVec 32) : BitVec 64 :=
  let result : BitVec 64 := (effect &&& 0b111111111).signExtend 64
  let result :=
    if 0xff000000 &&& foreColor = 0xff000000 then
      result ||| (characterAttributeTruecolorForeground.signExtend 64 |||
        ((foreColor.signExtend 64 &&& 0x00ffffff) <<< 40))
    else result ||| ((foreColor.signExtend 64 &&& 0b111111111) <<< 40)
  if 0xff000000 &&& backColor = 0xff000000 then
    result ||| (characterAttributeTruecolorBackground.signExtend 64 |||
      ((backColor.signExtend 64 &&& 0x00ffffff) <<< 16))
  else result ||| ((backColor.signExtend 64 &&& 0b111111111) <<< 16)

def normal : BitVec 64 := encode colorIndexForeground colorIndexBackground 0

def decodeForeColor (style : BitVec 64) : BitVec 32 :=
  if style &&& characterAttributeTruecolorForeground.signExtend 64 = 0 then
    ((style >>> 40) &&& 0b111111111).setWidth 32
  else 0xff000000 ||| ((style >>> 40) &&& 0x00ffffff).setWidth 32

def decodeBackColor (style : BitVec 64) : BitVec 32 :=
  if style &&& characterAttributeTruecolorBackground.signExtend 64 = 0 then
    ((style >>> 16) &&& 0b111111111).setWidth 32
  else 0xff000000 ||| ((style >>> 16) &&& 0x00ffffff).setWidth 32

def decodeEffect (style : BitVec 64) : BitVec 32 := (style &&& 0b11111111111).setWidth 32

end TextStyle
