import SoundScene.Api.Service
import SoundScene.Feed
import SoundScene.Viewer.Connection

/-!
The hub with its viewers.  Whatever the hub publishes goes into the feed, and from there to the
connection of each viewer.
-/

namespace SoundScene

structure Server where
  hub : Hub
  feed : Feed Event
  viewers : List (String × Connection)

namespace Server

def ofCapacity (capacity : Nat) : Server := ⟨.initial, .ofCapacity capacity, []⟩

def publish (server : Server) (events : List Event) : Server :=
  { server with feed := server.feed.publishAll events }

def connect (server : Server) (viewer : String) : Server :=
  { server with
    feed := server.feed.subscribe viewer
    viewers := server.viewers.filter (·.1 ≠ viewer) ++ [(viewer, .initial)] }

def disconnect (server : Server) (viewer : String) : Server :=
  { server with
    feed := (server.feed.unsubscribe viewer).2
    viewers := server.viewers.filter (·.1 ≠ viewer) }

def hear (server : Server) (viewer text : String) : Server :=
  { server with
    viewers := server.viewers.map fun (name, connection) =>
      (name, if name = viewer then connection.take (.text text) true else connection) }

def incoming (feed : Feed Event) (viewer : String) : List Incoming × Feed Event :=
  let (lost, events, feed) := feed.drain viewer
  ((if lost = 0 then [] else [.lost lost]) ++ events.map .event, feed)

def deliver (server : Server) : Server :=
  let (viewers, feed) := server.viewers.foldl (fun (viewers, feed) (viewer, connection) =>
    let (incoming, feed) := incoming feed viewer
    (viewers ++ [(viewer, connection.takeAll incoming)], feed)) ([], server.feed)
  { server with viewers, feed }

def collect (server : Server) : List (String × List Frame) × Server :=
  (server.viewers.map fun (viewer, connection) => (viewer, connection.sent),
    { server with
      viewers := server.viewers.map fun (viewer, connection) =>
        (viewer, { connection with sent := [] }) })

end Server

end SoundScene
