import SheetSuite.Proofs.Update.Phases

namespace SheetSuite

theorem Storage.createDirectory_silent (base path : Path) :
    ((onDisk base).createDirectory path).Silent :=
  fun t => Task.asks_update _ t

theorem Storage.writeFile_silent (base path : Path) (data : List UInt8) :
    ((onDisk base).writeFile path data).Silent := by
  apply Task.Silent.bind
  · exact fun t => Task.asks_update _ t
  · exact fun _ t => Task.asks_log _ _ _ t

namespace Update

variable {σ : Type}

theorem save_silent (settings : Settings) {storage : Storage σ}
    (directories : ∀ path, (storage.createDirectory path).Silent)
    (files : ∀ path data, (storage.writeFile path data).Silent) (suite : Suite) :
    (save settings storage suite).Silent := by
  apply (directories suiteDirectory).bind
  intro _
  apply Task.Silent.bind
  · exact fun s => Task.asks_log _ _ _ s
  · intro _
    apply (files suiteFile _).bind
    exact fun _ s => Task.asks_pure _ s

theorem asks_run (settings : Settings) (server : Http.Peer) (t : FileTree) :
    (run settings server).asks t = (preview settings server).asks t := by
  have silent (suite : Suite) :
      ((stages settings server (.onDisk settings.outputDir)).save suite).Silent :=
    save_silent settings (Storage.createDirectory_silent _) (Storage.writeFile_silent _) suite
  rw [run, Stages.asks_run, preview]
  split
  · rw [silent, List.append_nil]
  · rw [List.append_nil]

/-- A preview leaves the tree alone, and the update sends the same requests. If the preview fails, the update
fails with the same failure and leaves the tree alone as well. If the preview shows a suite, the update either
says where it is and has saved its text there, or it fails because of the disk, and for no other reason. -/
theorem run_as_previewed (settings : Settings) (server : Http.Peer) (t : FileTree) :
    ∃ shown, (preview settings server).ends t = (shown, t) ∧
      (run settings server).asks t = (preview settings server).asks t ∧
      match shown with
      | .error e => (run settings server).ends t = (.error e, t)
      | .ok suite => ∃ t',
          (∃ path, (run settings server).ends t = (.ok path, t') ∧ t'.read path =
            .ok (Text.utf8 (suite.encode (if settings.pretty then .indented else .compact)).toList)) ∨
          ∃ fault, (run settings server).ends t = (.error (.file fault), t') := by
  refine ⟨_, ends_preview settings server t, asks_run settings server t, ?_⟩
  rw [ends_run]
  cases received settings server with
  | error e => rfl
  | ok feed =>
      rcases saved : (save settings (.onDisk settings.outputDir) (Suite.ofFeed feed)).ends t with
        ⟨result, t'⟩
      refine ⟨t', ?_⟩
      cases result with
      | error e =>
          obtain ⟨⟨fault, rfl⟩, -⟩ := save_error saved
          exact Or.inr ⟨fault, saved⟩
      | ok path =>
          obtain ⟨rfl, -, target, located, found, -⟩ := save_ok saved
          exact Or.inl ⟨_, saved, FileTree.read_of_locate located found⟩

end Update

end SheetSuite
