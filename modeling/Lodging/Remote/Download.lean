import Lodging.Calendar.Error
import Lodging.Http.Exchange
import Lodging.Http.Status

/-!
# Downloading calendars

A calendar may have a limited number of bytes. A body whose told length exceeds the limit is refused at
once; else its chunks are gathered as long as they stay within the limit. A body that breaks off is
refused once all that arrives of it is gathered.
-/

namespace Lodging.Remote

open Http (Network Request)

structure Downloader where
  maxBytes : Nat
  deriving DecidableEq, Repr

def downloadUserAgent : String := "BeenestCalendarSync/1.0"

/-- The limit where none is set: five mebibytes. -/
def Downloader.standard : Downloader := ⟨5 * 1024 * 1024⟩

/-- The chunks put behind the bytes so far, unless they exceed the limit. -/
def gather (limit : Nat) (soFar : List UInt8) : List (List UInt8) → Option (List UInt8)
  | [] => some soFar
  | chunk :: rest =>
    if limit < soFar.length + chunk.length then none else gather limit (soFar ++ chunk) rest

namespace Downloader

def tooLarge (d : Downloader) (url : String) : Calendar.Error :=
  .fetch ("Calendar " ++ url ++ " exceeds " ++ .ofList (Decimal.digits d.maxBytes) ++ " bytes")

def broken : Calendar.Error := .fetch ("Failed to read body: " ++ Http.undecodable)

/-- Reads the answer. Bytes that make no character are replaced. -/
def read (d : Downloader) (url : String) (r : Http.Response) : Except Calendar.Error String :=
  if !Http.Status.isSuccess r.status then
    .error (.fetch ("HTTP " ++ Http.Status.text r.status ++ " from " ++ url))
  else if r.length.any (d.maxBytes < ·) then .error (d.tooLarge url)
  else
    match gather d.maxBytes [] r.chunks with
    | none => .error (d.tooLarge url)
    | some bytes =>
      if r.broken then .error broken else .ok (.ofList (Text.Utf8.decode bytes))

def fetch (d : Downloader) (net : Network) (url : String) :
    Except Calendar.Error String × List Request :=
  let (result, sent) := Http.send net downloadUserAgent url id
  match result with
  | .error e => (.error (.fetch ("HTTP request failed: " ++ e.message)), sent)
  | .ok r => (d.read url r, sent)

end Downloader

end Lodging.Remote
