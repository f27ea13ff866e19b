import Std.Async.TCP
import Teleop.Live.Sockets

/-!
# Serving pages

Answers requests for the pages of the service, one per connection.
-/

namespace Teleop

namespace Live

open Std.Net Std.Async

/-- What goes with the code of an answer. -/
def statusPhrase : Nat → String
  | 200 => "OK"
  | 404 => "Not Found"
  | 405 => "Method Not Allowed"
  | 500 => "Internal Server Error"
  | _ => "Bad Request"

/-- A page as it is sent. -/
def pageText (p : Service.Page) : Text :=
  let ending : Text := [13, 10]
  utf8 s!"HTTP/1.1 {p.status} " ++ utf8 (statusPhrase p.status) ++ ending ++
    (if p.contentType.isEmpty then [] else utf8 "Content-Type: " ++ p.contentType ++ ending) ++
    (if p.compressed then utf8 "Content-Encoding: gzip" ++ ending else []) ++
    utf8 "Content-Length: " ++ decimal p.body.length ++ ending ++
    utf8 "Connection: close" ++ ending ++ ending ++ p.body

/-- The head of a request has ended. -/
def headEnded : Text → Bool
  | [] => false
  | b :: rest => [13, 10, 13, 10].isPrefixOf (b :: rest) || headEnded rest

/-- Reads a request until its head has ended, in at most a number of pieces. -/
def readHead (client : TCP.Socket.Client) : Nat → Text → Async Text
  | 0, done => return done
  | pieces + 1, done => do
    if headEnded done then return done
    else
      match ← client.recv? 4096 with
      | some data => readHead client pieces (done ++ data.data.toList)
      | none => return done

/-- Answers one connection. -/
def answerClient (page : Service.Request → IO Service.Page) (client : TCP.Socket.Client) :
    Async Unit := do
  let head ← readHead client 16 []
  let answer ← match Service.Request.read? head with
    | some request => page request
    | none => pure { status := 400 }
  let text := pageText answer
  client.send ⟨text.toArray⟩
  client.shutdown

/-- Answers connections, one after the other. -/
partial def answerClients (page : Service.Request → IO Service.Page) (server : TCP.Socket.Server) :
    Async Unit := do
  let client ← server.accept
  try answerClient page client catch _ => pure ()
  answerClients page server

/-- Listens at an address and answers in the background. -/
def servePages (address : Address) (page : Service.Request → IO Service.Page) : IO Unit := do
  let server ← TCP.Socket.Server.mk
  server.bind (socketAddress address)
  server.listen 128
  discard (answerClients page server).toIO

end Live

end Teleop
