import RenderRelay.Proofs.Api.Gate
import RenderRelay.Proofs.Run.Record
import RenderRelay.Proofs.Url.Address

/-! # One image under two addresses

The backend's own URL of an image and the URL at which this program serves it name the same image.

* `parameters_proxyUrl`: the fields of the proxy's URL are read back as they were put in.
* `Client.fetchView_sends`: fetching an image sends one request, at least once.
* `viewRequest_eq`: below a URL without a query and a fragment, this request is that of the
  backend's own URL (`Url.getRequest`).
* `proxyUrl_names_view` puts them together for whoever asks the proxy, and `viewUrl_beside_proxy`
  shows what a query, a fragment or an empty token do. -/

namespace RenderRelay

/-- What asking for a URL sends to its host. -/
def Url.getRequest (url : String) : Request :=
  ⟨.get, (target url.toList).1, (target url.toList).2, .none⟩

namespace Client

variable (client : Client) (backend : Backend) (image : ImageRef)

/-- Fetching an image sends one request, at least once and at most as often as the policy has it. -/
theorem fetchView_sends (traffic : Traffic) : ∃ more < client.patience.limit,
    (client.fetchView backend image.viewParams traffic).2.sent =
      traffic.sent ++ List.replicate (more + 1) (client.viewRequest image) := by
  have hiterate : ∀ n, ((fun traffic =>
      (client.viewOnce backend image.viewParams traffic).2)^[n] traffic).sent =
        traffic.sent ++ List.replicate n (client.viewRequest image) := by
    intro n
    induction n with
    | zero => exact (List.append_nil _).symm
    | succ n ih =>
        rw [Function.iterate_succ_apply', viewOnce_asks, ih, List.replicate_succ',
          List.append_assoc]
        rfl
  obtain ⟨more, hmore, hstate⟩ := retryFrom_iterate client.patience client.share
    (client.viewOnce backend image.viewParams) (client.patience.limit - 1) 1 traffic
  have hlimit : 1 ≤ client.patience.limit := Nat.le_max_left 1 _
  refine ⟨more, by omega, ?_⟩
  rw [← hiterate (more + 1), ← hstate]
  rfl

end Client

namespace ImageRef

variable (image : ImageRef) {base : String}

/-- The fields of a token; an empty one counts as none. -/
def tokenFields : Option String → Url.Form
  | none => []
  | some token => if token.isEmpty then [] else [("token", token)]

theorem proxyParams_eq (base : String) (token : Option String) :
    image.proxyParams base token = image.viewParams ++ ("base_url", base) :: tokenFields token := by
  unfold proxyParams
  cases token with
  | none => rfl
  | some token =>
      unfold tokenFields
      rw [Option.filter_some]
      dsimp only
      cases token.isEmpty <;> rfl

/-- The fields of the proxy's URL are read back. -/
theorem parameters_proxyUrl (base : String) (token : Option String) :
    Url.parameters (image.proxyUrl base token proxyPath).toList =
      image.viewParams ++ ("base_url", base) :: tokenFields token := by
  have htext : (image.proxyUrl base token proxyPath).toList =
      proxyPath.toList ++ '?' :: (Url.encode (image.proxyParams base token)).toList := by
    unfold proxyUrl
    rw [String.toList_append, String.toList_append, List.append_assoc]
    rfl
  unfold Url.parameters
  rw [htext, Url.queryOf_append_query (by decide) (by decide)
    (Url.not_mem_encode (by decide) (by decide) (by decide) _), String.ofList_toList,
    Url.decode_encode, proxyParams_eq]

/-- The backend's own URL of an image asks for the endpoint with the image's parameters. -/
theorem getRequest_viewUrl (hbase : Url.normalizeBase (some base) = .ok base)
    (hquestion : '?' ∉ base.toList) (hfragment : '#' ∉ base.toList) :
    Url.getRequest (image.viewUrl base) =
      ⟨.get, (Url.target (base.toList ++ "/view".toList)).1, image.viewParams, .none⟩ := by
  obtain ⟨⟨scheme, rest, hscheme⟩, hslash⟩ := Url.normalizeBase_outcome hbase
  have hnot : ∀ {c : Char}, c ∉ base.toList → c ∉ "/view".toList →
      c ∉ base.toList ++ "/view".toList := fun hc hview hmem =>
    (List.mem_append.mp hmem).elim hc hview
  have hurl : (image.viewUrl base).toList =
      (base.toList ++ "/view".toList) ++ '?' :: (Url.encode image.viewParams).toList := by
    unfold viewUrl withoutEndSlashes
    rw [hslash, String.ofList_toList, String.toList_append, String.toList_append,
      List.append_assoc, List.append_assoc]
    rfl
  have htarget := Url.target_append_query (Text.splitOnceChars_append_right hscheme _)
    (hnot hquestion (by decide)) (hnot hfragment (by decide)) image.viewParams
  unfold Url.getRequest
  rw [hurl, htarget]

/-- Below a URL without a query and a fragment, the request for an image is that of its URL. -/
theorem viewRequest_eq {client : Client} (hclient : client.baseUrl = base)
    (hbase : Url.normalizeBase (some base) = .ok base) (hquestion : '?' ∉ base.toList)
    (hfragment : '#' ∉ base.toList) :
    client.viewRequest image = Url.getRequest (image.viewUrl base) := by
  have hjoined : Url.joined base.toList "/view".toList = base.toList ++ "/view".toList :=
    Url.joined_endpoint (Url.normalizeBase_outcome hbase).2 hfragment (by decide) _
  rw [image.getRequest_viewUrl hbase hquestion hfragment]
  unfold Client.viewRequest Client.request Url.address
  rw [hclient, hjoined]
  rfl

/-- The image that the fields of the proxy's URL tell has the same parameters. -/
theorem viewParams_told : viewParams ⟨image.filename, some (image.subfolder.getD ""),
    some ((image.category.filter fun s => !s.isEmpty).getD defaultCategory)⟩ =
      image.viewParams := by
  have hcategory : ((some ((image.category.filter fun s => !s.isEmpty).getD
      defaultCategory)).filter fun s => !s.isEmpty).getD defaultCategory =
        (image.category.filter fun s => !s.isEmpty).getD defaultCategory := by
    cases hfilter : image.category.filter fun s => !s.isEmpty with
    | none => rfl
    | some category =>
        rw [Option.getD_some, Option.filter_some, if_pos (Option.filter_eq_some_iff.mp hfilter).2]
        rfl
  unfold viewParams
  dsimp only
  rw [hcategory]
  rfl

end ImageRef

namespace Api

variable {request : ApiRequest} {image : ImageRef} {base : String} {token : Option String}

/-- What a request with the fields of the proxy's URL tells. -/
theorem params_of_query
    (h : request.query = image.viewParams ++ ("base_url", base) :: ImageRef.tokenFields token) :
    request.param "filename" = some image.filename ∧
      request.param "subfolder" = some (image.subfolder.getD "") ∧
      request.param "type" =
        some ((image.category.filter fun s => !s.isEmpty).getD ImageRef.defaultCategory) ∧
      request.param "base_url" = some base := by
  unfold ApiRequest.param
  rw [h]
  cases token with
  | none => exact ⟨rfl, rfl, rfl, rfl⟩
  | some token =>
      unfold ImageRef.tokenFields
      dsimp only
      cases token.isEmpty <;> exact ⟨rfl, rfl, rfl, rfl⟩

theorem Service.backendUrl_of_fixed (service : Service)
    (hbase : Url.normalizeBase (some base) = .ok base) :
    service.backendUrl (some base) = .ok base := by
  have hne : base.isEmpty = false := by
    rw [← Bool.not_eq_true, String.isEmpty_iff]
    rintro rfl
    cases hbase
  have hnamed : Fault.nonEmpty? (some base) = some base := by
    unfold Fault.nonEmpty?
    rw [Option.filter_some, hne]
    rfl
  unfold backendUrl Url.checkBase
  rw [hnamed, Option.getD_some, hbase]
  rfl

/-- Whoever asks the proxy with these fields makes it ask the backend for the image. -/
theorem Service.serveImage_sends (service : Service) (world : World Double)
    (hbase : Url.normalizeBase (some base) = .ok base)
    (h : request.query = image.viewParams ++ ("base_url", base) :: ImageRef.tokenFields token) :
    ∃ more < (service.runs.client base).patience.limit,
      (service.serveImage request world).2.sent = world.sent ++
        List.replicate (more + 1) ((service.runs.client base).viewRequest image) := by
  obtain ⟨hfilename, hsubfolder, hcategory, hnamed⟩ := params_of_query h
  obtain ⟨more, hmore, hsent⟩ :=
    (service.runs.client base).fetchView_sends service.runs.backend image ⟨world.sent, []⟩
  refine ⟨more, hmore, ?_⟩
  have hurl : Act.ofExcept (service.backendUrl (some base)) world = (.ok base, world) := by
    rw [Act.ofExcept_apply, service.backendUrl_of_fixed hbase]
  unfold serveImage
  rw [hfilename, hsubfolder, hcategory, hnamed]
  dsimp only
  rw [bind_ok hurl, Option.getD_some, Option.getD_some, image.viewParams_told]
  generalize hasked : Act.exchange ((service.runs.client base).fetchView service.runs.backend
    image.viewParams) world = asked
  obtain ⟨answer, after⟩ := asked
  obtain ⟨traffic, hexchange, hafter⟩ := Act.exists_of_exchange hasked
  rw [hexchange] at hsent
  rw [← hafter.trans hsent]
  cases answer with
  | error failure => rw [bind_error hasked]
  | ok response => rw [bind_ok hasked]; rfl

end Api

/-- **The proxy's URL and the backend's name one image.**  For every image, base URL and token: the
fields of the proxy's URL are read back as the parameters of the image, the base URL and the token,
unless it is empty.  If the base URL is one that is kept as it is, and has neither a query nor a
fragment, then a request with these fields, to any service in any state, makes it send the request
that the backend's own URL of the image stands for, at that base URL, at least once and nothing
else; it asks for the path `/view` below the base URL, with the parameters of the image. -/
theorem ImageRef.proxyUrl_names_view (image : ImageRef) (base : String) (token : Option String) :
    Url.parameters (image.proxyUrl base token proxyPath).toList =
        image.viewParams ++ ("base_url", base) :: tokenFields token ∧
    (Url.normalizeBase (some base) = .ok base → '?' ∉ base.toList → '#' ∉ base.toList →
      Url.getRequest (image.viewUrl base) =
        ⟨.get, (Url.target (base.toList ++ "/view".toList)).1, image.viewParams, .none⟩ ∧
      ∀ (service : Api.Service) (request : Api.ApiRequest) (world : World Double),
        request.query = Url.parameters (image.proxyUrl base token proxyPath).toList →
          (service.runs.client base).baseUrl = base ∧
          (service.runs.client base).viewRequest image = Url.getRequest (image.viewUrl base) ∧
          ∃ more < (service.runs.client base).patience.limit,
            (service.serveImage request world).2.sent = world.sent ++
              List.replicate (more + 1) (Url.getRequest (image.viewUrl base))) := by
  have hfields := image.parameters_proxyUrl base token
  refine ⟨hfields, fun hbase hquestion hfragment => ?_⟩
  have hclient : ∀ service : Api.Service, (service.runs.client base).baseUrl = base := by
    intro service
    unfold RunConfig.client withoutEndSlashes
    rw [(Url.normalizeBase_outcome hbase).2, String.ofList_toList]
  refine ⟨image.getRequest_viewUrl hbase hquestion hfragment,
    fun service request world hquery => ?_⟩
  have hrequest := image.viewRequest_eq (hclient service) hbase hquestion hfragment
  have hsends := service.serveImage_sends world hbase (hquery.trans hfields)
  rw [hrequest] at hsends
  exact ⟨hclient service, hrequest, hsends⟩

/-- An image whose name has a space and characters that part the fields of a form. -/
def sampleImage : ImageRef := ⟨"a b&c=ü.png", some "x/y", none⟩

/-- A request with the fields of a URL, and nothing else. -/
def Api.requestOf (url : String) : ApiRequest :=
  ⟨"GET", ImageRef.proxyPath, Url.parameters url.toList, [], [], .null, [], []⟩

theorem Api.requestOf_query (url : String) :
    (requestOf url).query = Url.parameters url.toList := by
  unfold requestOf
  dsimp only

theorem ImageRef.proxyUrl_names_view_sampleImage :
    Url.normalizeBase (some "http://peer:8188/ui") = .ok "http://peer:8188/ui" ∧
      '?' ∉ "http://peer:8188/ui".toList ∧ '#' ∉ "http://peer:8188/ui".toList ∧
      sampleImage.viewUrl "http://peer:8188/ui" =
        "http://peer:8188/ui/view?filename=a+b%26c%3D%C3%BC.png&subfolder=x%2Fy&type=output" ∧
      Url.parameters (sampleImage.proxyUrl "http://peer:8188/ui" (some "t") proxyPath).toList =
        [("filename", "a b&c=ü.png"), ("subfolder", "x/y"), ("type", "output"),
          ("base_url", "http://peer:8188/ui"), ("token", "t")] ∧
      ∀ world : World Double, ∃ more < 3, (Api.Service.sampleService.serveImage (Api.requestOf
          (sampleImage.proxyUrl "http://peer:8188/ui" (some "t") proxyPath)) world).2.sent =
        world.sent ++ List.replicate (more + 1) ⟨.get, "/ui/view",
          [("filename", "a b&c=ü.png"), ("subfolder", "x/y"), ("type", "output")], .none⟩ := by
  have hbase : Url.normalizeBase (some "http://peer:8188/ui") = .ok "http://peer:8188/ui" := by
    decide +kernel
  have hquestion : '?' ∉ "http://peer:8188/ui".toList := by decide
  have hfragment : '#' ∉ "http://peer:8188/ui".toList := by decide
  have hrequest : Url.getRequest (sampleImage.viewUrl "http://peer:8188/ui") = ⟨.get, "/ui/view",
      [("filename", "a b&c=ü.png"), ("subfolder", "x/y"), ("type", "output")], .none⟩ := by
    decide +kernel
  obtain ⟨hfields, hserved⟩ :=
    sampleImage.proxyUrl_names_view "http://peer:8188/ui" (some "t")
  obtain ⟨-, hsends⟩ := hserved hbase hquestion hfragment
  have htold : sampleImage.viewParams ++
      ("base_url", "http://peer:8188/ui") :: tokenFields (some "t") =
        [("filename", "a b&c=ü.png"), ("subfolder", "x/y"), ("type", "output"),
          ("base_url", "http://peer:8188/ui"), ("token", "t")] := by decide +kernel
  refine ⟨hbase, hquestion, hfragment, by decide +kernel, hfields.trans htold, fun world => ?_⟩
  obtain ⟨-, -, hsent⟩ := hsends Api.Service.sampleService
    (Api.requestOf (sampleImage.proxyUrl "http://peer:8188/ui" (some "t") proxyPath)) world
    (Api.requestOf_query _)
  rw [hrequest] at hsent
  exact hsent

/-- An image with a plain name. -/
def plainImage : ImageRef := ⟨"a.png", none, none⟩

/-- Behind a fragment, the backend's own URL has no parameters, but the proxy sends them; behind a
query, the endpoint is no path, and what the proxy sends asks for none; and an empty token is not
given back. -/
theorem viewUrl_beside_proxy :
    (Url.normalizeBase (some "http://h#f") = .ok "http://h#f" ∧
      (Url.getRequest (plainImage.viewUrl "http://h#f")).query = [] ∧
      ∀ world : World Double, ∃ more, (Api.Service.sampleService.serveImage (Api.requestOf
          (plainImage.proxyUrl "http://h#f" none ImageRef.proxyPath)) world).2.sent =
        world.sent ++ List.replicate (more + 1) ⟨.get, "/view",
          [("filename", "a.png"), ("subfolder", ""), ("type", "output")], .none⟩) ∧
    (Url.normalizeBase (some "http://h?x=1") = .ok "http://h?x=1" ∧
      (Url.getRequest (plainImage.viewUrl "http://h?x=1")).query =
        [("x", "1/view?filename=a.png"), ("subfolder", ""), ("type", "output")] ∧
      ∀ world : World Double, ∃ more, (Api.Service.sampleService.serveImage (Api.requestOf
          (plainImage.proxyUrl "http://h?x=1" none ImageRef.proxyPath)) world).2.sent =
        world.sent ++ List.replicate (more + 1) ⟨.get, "/",
          [("filename", "a.png"), ("subfolder", ""), ("type", "output")], .none⟩) ∧
    Url.parameters (plainImage.proxyUrl "http://h" (some "") ImageRef.proxyPath).toList =
      [("filename", "a.png"), ("subfolder", ""), ("type", "output"), ("base_url", "http://h")] := by
  have hsends : ∀ {base : String} {sent : Request}, Url.normalizeBase (some base) = .ok base →
      (Api.Service.sampleService.runs.client base).viewRequest plainImage = sent →
        ∀ world : World Double, ∃ more, (Api.Service.sampleService.serveImage (Api.requestOf
          (plainImage.proxyUrl base none ImageRef.proxyPath)) world).2.sent =
            world.sent ++ List.replicate (more + 1) sent := by
    rintro base sent hbase rfl world
    have hquery : (Api.requestOf (plainImage.proxyUrl base none ImageRef.proxyPath)).query =
        plainImage.viewParams ++ ("base_url", base) :: ImageRef.tokenFields none := by
      rw [Api.requestOf_query, plainImage.parameters_proxyUrl]
    obtain ⟨more, -, hsent⟩ := Api.Service.sampleService.serveImage_sends world hbase hquery
    exact ⟨more, hsent⟩
  have hfragment : Url.normalizeBase (some "http://h#f") = .ok "http://h#f" := by decide +kernel
  have hquestion : Url.normalizeBase (some "http://h?x=1") = .ok "http://h?x=1" := by
    decide +kernel
  exact ⟨⟨hfragment, by decide +kernel, hsends hfragment (by decide +kernel)⟩,
    ⟨hquestion, by decide +kernel, hsends hquestion (by decide +kernel)⟩,
    (plainImage.parameters_proxyUrl "http://h" (some "")).trans (by decide +kernel)⟩

end RenderRelay
