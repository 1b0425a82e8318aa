import SyncDir.Utils.NetworkManager

/-!
# The client

A client keeps a directory in step with the server.  Its file thread reports
what inotify says about the directory, and its push thread applies what the
server has pushed.  Both take the `watcher_push_lock` around a file transfer.

The push thread is a machine that is fed with one packet at a time; it has no
handler for exceptions, so an exception terminates the process.
-/

namespace SyncDir

namespace Client

open FileManager NetworkManager PacketType

/-! ### The file thread -/

/-- `IN_CLOSE_WRITE`: a file that was open for writing has been closed. -/
def IN_CLOSE_WRITE : UInt32 := 0x8

/-- `IN_DELETE`: a file has been removed from the directory. -/
def IN_DELETE : UInt32 := 0x200

/-- An inotify event; there is no name when its length field is zero. -/
structure InotifyEvent where
  mask : UInt32
  name : Option FileName

/-- What `handleFileThread` sends for an event, when it finds `disk` in the directory. -/
def handleEvent (event : InotifyEvent) (disk : Directory) : Send Unit :=
  match event.name with
  | none => pure ()
  | some file_name =>
      if event.mask &&& IN_CLOSE_WRITE ≠ 0 then do
        sendPacket t_WRITE.value 1 file_name.bytes
        sendFileInChunks file_name.bytes MAX_PACKET_SIZE disk
      else if event.mask &&& IN_DELETE ≠ 0 then
        sendPacket t_DELETE.value 1 file_name.bytes
      else
        pure ()

/-- `handleFileThread` on a sequence of events, each with the directory when it is handled. -/
def handleFileThread (events : List (InotifyEvent × Directory)) : Send Unit :=
  Send.each (fun input => handleEvent input.1 input.2) events

/-! ### The push thread -/

/-- Where the push thread waits for a packet. -/
inductive PushMode
  | awaiting
  /-- In the inner loop, with the packet that announced the file. -/
  | receiving (pkt : Packet) (file_name : Bytes)
  /-- The base directory itself has been removed; the thread is followed no further. -/
  | unlinked
  | terminated (exception : Exception)
  deriving DecidableEq

/-- Whether a base directory with these files is empty, which cannot be computed from the map. -/
abbrev Emptiness : Type :=
  Directory → Bool

structure PushThread where
  disk : Directory
  mode : PushMode
  watcher_push_lock : Bool

def PushThread.idle (disk : Directory) : PushThread :=
  { disk, mode := .awaiting, watcher_push_lock := false }

/-- What `handlePushThread` does with a packet. -/
def handlePushPacket (isEmpty : Emptiness) (thread : PushThread) (pkt_received : Packet) :
    PushThread :=
  match thread.mode with
  | .awaiting =>
      match pkt_received.c_str with
      | .error exception => { thread with mode := .terminated exception }
      | .ok payload_stream =>
          let file_name := extractWord payload_stream
          if pkt_received.type = t_WRITE.value then
            { disk := clearFile thread.disk file_name, mode := .receiving pkt_received file_name,
              watcher_push_lock := true }
          else if pkt_received.type = t_DELETE.value then
            -- Without a first word the path is that of the base directory.
            if file_name = [] ∧ isEmpty thread.disk then
              { thread with mode := .unlinked }
            else
              match deleteFile thread.disk file_name with
              | .error exception => { thread with mode := .terminated exception }
              | .ok disk => { thread with disk }
          else
            thread
  | .receiving pkt file_name =>
      -- The end of the loop is decided by the packet that announced the file.
      if pkt.type = t_END_OF_FILE.value then
        { thread with mode := .awaiting, watcher_push_lock := false }
      else
        match writeFile thread.disk file_name pkt_received.content with
        | .error exception => { thread with mode := .terminated exception }
        | .ok disk => { thread with disk }
  | .unlinked | .terminated _ => thread

def handlePushThread (isEmpty : Emptiness) (thread : PushThread) (packets : List Packet) :
    PushThread :=
  packets.foldl (handlePushPacket isEmpty) thread

end Client

end SyncDir
