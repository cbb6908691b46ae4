import Kroopt.Error

/-!
# Handshake serialization

The byte builders of the server flight: total functions from message fields to wire bytes.
-/

set_option autoImplicit false

namespace Kroopt.Parse.Wire

/-- Big-endian two-byte encoding. -/
def be16 (n : UInt16) : Bytes := [(n >>> 8).toUInt8, n.toUInt8]

/-- Big-endian three-byte encoding of a length. -/
def be24 (n : Nat) : Bytes := [(n >>> 16).toUInt8, (n >>> 8).toUInt8, n.toUInt8]

/-- A vector with a one-byte length. -/
def u8Len (body : Bytes) : Bytes := [body.length.toUInt8] ++ body

/-- A vector with a two-byte length. -/
def u16Len (body : Bytes) : Bytes := be16 body.length.toUInt16 ++ body

/-- A vector with a three-byte length. -/
def u24Len (body : Bytes) : Bytes := be24 body.length ++ body

/-- A handshake message: type, three-byte length, body. -/
def handshake (msgType : UInt8) (body : Bytes) : Bytes := [msgType] ++ u24Len body

/-- An extension. -/
def extension (extType : UInt16) (data : Bytes) : Bytes := be16 extType ++ u16Len data

/-- A key-share entry. -/
def keyShareEntry (group : UInt16) (keyExchange : Bytes) : Bytes := be16 group ++ u16Len keyExchange

/-- ServerHello. -/
def serverHello (random sessionIdEcho : Bytes) (cipherSuite group : UInt16) (keyShare : Bytes)
    (selectedVersion : UInt16) : Bytes :=
  let exts : Bytes :=
    extension 0x0033 (keyShareEntry group keyShare) ++ extension 0x002b (be16 selectedVersion)
  let body : Bytes :=
    be16 0x0303 ++ random ++ u8Len sessionIdEcho ++ be16 cipherSuite ++ [0x00] ++ u16Len exts
  handshake 0x02 body

/-- EncryptedExtensions. -/
def encryptedExtensions (exts : Bytes) : Bytes := handshake 0x08 (u16Len exts)

/-- Finished. -/
def finished (verifyData : Bytes) : Bytes := handshake 0x14 verifyData

/-- One entry of a certificate list. -/
def certificateEntry (certData extensions : Bytes) : Bytes := u24Len certData ++ u16Len extensions

/-- Certificate. -/
def certificate (context entries : Bytes) : Bytes :=
  handshake 0x0b (u8Len context ++ u24Len entries)

/-- CertificateVerify. -/
def certificateVerify (scheme : UInt16) (signature : Bytes) : Bytes :=
  handshake 0x0f (be16 scheme ++ u16Len signature)

end Kroopt.Parse.Wire
